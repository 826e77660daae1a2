/-
Roster.Net.DomainTable — which characters a domain name may hold, and what
others stand for, by the compatibility mapping for names in Unicode 15.

Rows are numbers in base 36. `validText` holds ranges of characters that stay;
`ignoredText` ranges of those that are dropped; `runText` the first and last
character of a run, its stride, and the image of its first character, from
which the others follow; `imageText` a character and its image of any length.
All other characters are not allowed.
-/
import Roster.Text.Rows

namespace Roster.Net

open Roster.Text (rows)

def validText : String :=
  "0,1s 2j,3j 4h,4n 4p,4p 4r,4s 4u,4u 4w,4x 52,53 57,57 5b,5b 5z,5z 67,73 75,75 77,77 79,79
  7b,7b 7d,7d 7f,7f 7h,7h 7j,7j 7l,7l 7n,7n 7p,7p 7r,7r 7t,7t 7v,7v 7x,7x 7z,7z 81,81 83,83
  85,85 87,87 89,89 8b,8b 8d,8d 8f,8f 8h,8h 8l,8l 8n,8o 8q,8q 8s,8s 8u,8u 8y,8y 90,90 92,92
  94,94 97,97 99,99 9b,9b 9d,9d 9f,9f 9h,9h 9j,9j 9l,9l 9n,9n 9p,9p 9r,9r 9t,9t 9v,9v 9x,9x
  9z,9z a1,a1 a3,a3 a5,a5 a7,a7 a9,a9 ab,ab ad,ad af,af ai,ai ak,ak am,am ao,ao ar,ar at,at
  aw,aw b0,b1 b6,b6 b9,b9 bd,bf bi,bi bl,bl bn,bn bp,bp bs,bs bu,bv bx,bx c0,c0 c4,c4 c6,c6
  c9,cb cd,cj cu,cu cw,cw cy,cy d0,d0 d2,d2 d4,d4 d6,d6 d8,d9 db,db dd,dd df,df dh,dh dj,dj
  dl,dl dn,dn dp,dp dr,ds dx,dx e1,e1 e3,e3 e5,e5 e7,e7 e9,e9 eb,eb ed,ed ef,ef eh,eh ej,ej
  el,el en,en ep,ep er,er et,et ev,ev ex,ex ez,ez f1,f1 f3,f3 f5,f5 f7,f7 f9,f9 fb,fb fd,fd
  ff,ff fh,fh fj,fj fl,fl fn,ft fw,fw fz,g0 g2,g2 g7,g7 g9,g9 gb,gb gd,gd gf,j3 jd,k7 ke,kf
  kl,n3 n6,n6 na,ni nk,of oh,oh oj,oj ol,ol on,on or,ot pc,pc q4,r2 rb,rb rd,rd rf,rf rh,rh
  rj,rj rl,rl rn,rn rp,rp rr,rr rt,rt rv,rv rx,rx rz,rz s3,s3 s6,s6 s8,s8 sb,sc ts,v3 v5,v5
  v7,v7 v9,v9 vb,vb vd,vd vf,vf vh,vh vj,vj vl,vl vn,vn vp,vp vr,vr vt,vt vv,vv vx,vx vz,vz
  w1,w9 wb,wb wd,wd wf,wf wh,wh wj,wj wl,wl wn,wn wp,wp wr,wr wt,wt wv,wv wx,wx wz,wz x1,x1
  x3,x3 x5,x5 x7,x7 x9,x9 xb,xb xd,xd xf,xf xh,xh xj,xj xl,xl xn,xn xp,xp xr,xr xu,xu xw,xw
  xy,xy y0,y0 y2,y2 y4,y4 y6,y7 y9,y9 yb,yb yd,yd yf,yf yh,yh yj,yj yl,yl yn,yn yp,yp yr,yr
  yt,yt yv,yv yx,yx yz,yz z1,z1 z3,z3 z5,z5 z7,z7 z9,z9 zb,zb zd,zd zf,zf zh,zh zj,zj zl,zl
  zn,zn zp,zp zr,zr zt,zt zv,zv zx,zx zz,zz 101,101 103,103 105,105 107,107 109,109 10b,10b
  10d,10d 10f,10f 10h,10h 10j,10j 10l,10l 10n,10n 10p,10p 10r,10r 10t,10t 10v,10v 121,13a
  13c,13e 13h,13j 13l,153 15c,162 167,16c 16u,17f 17h,19w 1a1,1cs 1cu,1e5 1e8,1fu 1fx,1ip
  1j4,1kq 1kt,1m5 1m8,1mm 1mo,1nf 1ni,1ni 1nk,1nu 1o0,1ou 1p4,1r5 1r7,1uf 1uo,1vn 1vp,1vw
  1vz,1w0 1w3,1wo 1wq,1ww 1wy,1wy 1x2,1x5 1x8,1xg 1xj,1xk 1xn,1xq 1xz,1xz 1y8,1yb 1ye,1z2
  1z5,1z7 1z9,1ze 1zj,1zk 1zn,208 20a,20g 20i,20i 20l,20l 20o,20p 20s,20s 20u,20y 213,214
  217,219 21d,21d 21o,21o 21y,22e 22p,22r 22t,231 233,235 237,23s 23u,240 242,243 245,249
  24c,24l 24n,24p 24r,24t 24w,24w 25c,25f 25i,25t 261,267 269,26b 26d,26k 26n,26o 26r,27c
  27e,27k 27m,27n 27p,27t 27w,284 287,288 28b,28d 28l,28n 28v,28z 292,29j 29u,29v 29x,2a2
  2a6,2a8 2aa,2ad 2ah,2ai 2ak,2ak 2am,2an 2ar,2as 2aw,2ay 2b2,2bd 2bi,2bm 2bq,2bs 2bu,2bx
  2c0,2c0 2c7,2c7 2cm,2d6 2dc,2do 2dq,2ds 2du,2eg 2ei,2ex 2f0,2f8 2fa,2fc 2fe,2fh 2fp,2fq
  2fs,2fu 2fx,2fx 2g0,2g3 2g6,2gf 2gn,2h8 2ha,2hc 2he,2i0 2i2,2ib 2id,2ih 2ik,2is 2iu,2iw
  2iy,2j1 2j9,2ja 2jh,2ji 2jk,2jn 2jq,2jz 2k1,2k3 2kg,2ks 2ku,2kw 2ky,2mc 2me,2mg 2mi,2mn
  2ms,2n7 2na,2nz 2o1,2o3 2o5,2om 2oq,2pd 2pf,2pn 2pp,2pp 2ps,2py 2q2,2q2 2q7,2qc 2qe,2qe
  2qg,2qn 2qu,2r3 2r6,2r8 2rl,2sy 2t0,2t6 2tb,2u3 2v5,2v6 2v8,2v8 2va,2ve 2vg,2w3 2w5,2w5
  2w7,2wi 2wk,2wt 2ww,2x0 2x2,2x2 2x4,2xa 2xc,2xl 2xq,2xr 2yo,2yz 2z1,30i 30k,30n 30p,30s
  30u,30x 30z,312 314,317 319,31k 31m,31o 31t,31u 31w,31w 322,328 32a,32q 32s,32v 32x,330
  332,335 337,33a 33c,33f 33h,33s 33u,33w 33y,34c 34e,34q 35s,3a7 3bk,3cr 3ct,3fi 3fl,3m0
  3m2,3m5 3m8,3me 3mg,3mg 3mi,3ml 3mo,3ns 3nu,3nx 3o0,3ow 3oy,3p1 3p4,3pa 3pc,3pc 3pe,3ph
  3pk,3py 3q0,3rk 3rm,3rp 3rs,3tm 3tp,3uk 3uo,3vd 3vk,3xx 3y8,4fz 4g1,4gs 4gw,4jc 4jk,4k5
  4kf,4l2 4lc,4lv 4m8,4mk 4mm,4mo 4mq,4mr 4n4,4oj 4om,4pp 4ps,4q1 4q8,4qh 4qo,4qt 4qv,4qy
  4r4,4rd 4rk,4u0 4u8,4ve 4vk,4xh 4xs,4ym 4yo,4yz 4z4,4zf 4zk,4zk 4zo,50t 50w,510 51c,52j
  52o,53d 53k,53u 53y,55n 55q,57i 57k,58c 58f,58p 58w,595 59c,59p 59s,5am 5c0,5e4 5e8,5fi
  5fk,5ir 5j0,5kn 5kr,5l5 5l9,5mn 5og,5on 5ow,5q2 5q8,5rf 5rj,5rj 5rv,5rv 5se,5se 5t7,5tj
  5tl,5ui 5vk,5xb 5xd,5xd 5xf,5xf 5xh,5xh 5xj,5xj 5xl,5xl 5xn,5xn 5xp,5xp 5xr,5xr 5xt,5xt
  5xv,5xv 5xx,5xx 5xz,5xz 5y1,5y1 5y3,5y3 5y5,5y5 5y7,5y7 5y9,5y9 5yb,5yb 5yd,5yd 5yf,5yf
  5yh,5yh 5yj,5yj 5yl,5yl 5yn,5yn 5yp,5yp 5yr,5yr 5yt,5yt 5yv,5yv 5yx,5yx 5yz,5yz 5z1,5z1
  5z3,5z3 5z5,5z5 5z7,5z7 5z9,5z9 5zb,5zb 5zd,5zd 5zf,5zf 5zh,5zh 5zj,5zj 5zl,5zl 5zn,5zn
  5zp,5zp 5zr,5zr 5zt,5zt 5zv,5zv 5zx,5zx 5zz,5zz 601,601 603,603 605,605 607,607 609,609
  60b,60b 60d,60d 60f,60f 60h,60h 60j,60j 60l,60l 60n,60n 60p,60p 60r,60r 60t,60t 60v,60v
  60x,60x 60z,60z 611,611 613,613 615,615 617,617 619,619 61b,61b 61d,61d 61f,61f 61h,61l
  61o,61p 61r,61r 61t,61t 61v,61v 61x,61x 61z,61z 621,621 623,623 625,625 627,627 629,629
  62b,62b 62d,62d 62f,62f 62h,62h 62j,62j 62l,62l 62n,62n 62p,62p 62r,62r 62t,62t 62v,62v
  62x,62x 62z,62z 631,631 633,633 635,635 637,637 639,639 63b,63b 63d,63d 63f,63f 63h,63h
  63j,63j 63l,63l 63n,63n 63p,63p 63r,63r 63t,63t 63v,63v 63x,63x 63z,63z 641,641 643,643
  645,645 647,647 649,649 64b,64b 64d,64d 64f,64n 64w,651 65c,65j 65s,65z 668,66d 66o,66v
  674,67b 67k,67k 67m,67m 67o,67o 67q,67q 67s,67s 67u,67u 67w,67w 69c,69d 69i,69i 69y,69y
  6a8,6aa 6ae,6af 6ao,6aq 6as,6av 6ba,6ba 6bw,6bx 6c0,6c0 6c2,6c6 6c8,6cj 6cn,6cn 6cw,6cy
  6d1,6d1 6d4,6d7 6d9,6d9 6db,6di 6dm,6dy 6e0,6e6 6g0,6g7 6g9,6gw 6hc,6i8 6is,6is 6iw,6iw
  6j8,6j8 6jb,6jc 6ji,6jj 6jn,6jn 6jp,6jp 6jr,6jr 6jt,6jt 6jy,6jy 6ka,6ka 6kh,6kk 6kq,6kv
  6m8,6ma 6mc,6mg 6mi,6mj 6mo,6qz 6r2,6r2 6r5,6y0 6y3,752 75s,762 7aj,8az 8b1,8dv 8dz,8gr
  8gt,8kz 8l2,8lx 8lz,8ov 8q8,8rj 8rl,8rl 8rp,8rq 8rs,8rs 8ru,8ru 8rw,8rw 8s1,8s1 8s3,8s4
  8s6,8sb 8sh,8sh 8sj,8sj 8sl,8sl 8sn,8sn 8sp,8sp 8sr,8sr 8st,8st 8sv,8sv 8sx,8sx 8sz,8sz
  8t1,8t1 8t3,8t3 8t5,8t5 8t7,8t7 8t9,8t9 8tb,8tb 8td,8td 8tf,8tf 8th,8th 8tj,8tj 8tl,8tl
  8tn,8tn 8tp,8tp 8tr,8tr 8tt,8tt 8tv,8tv 8tx,8tx 8tz,8tz 8u1,8u1 8u3,8u3 8u5,8u5 8u7,8u7
  8u9,8u9 8ub,8ub 8ud,8ud 8uf,8uf 8uh,8uh 8uj,8uj 8ul,8ul 8un,8un 8up,8up 8ur,8ur 8ut,8ut
  8uv,8uv 8ux,8ux 8uz,8uz 8v1,8v1 8v3,8v3 8v5,8v5 8v7,8ve 8vg,8vg 8vi,8vl 8vn,8vn 8vt,8x1
  8x3,8x3 8x9,8x9 8xc,8yv 8z4,8z4 8zj,906 90g,90m 90o,90u 90w,912 914,91a 91c,91i 91k,91q
  91s,91y 920,926 928,95p 96o,97d 97f,97i 97k,99u 9hd,9hd 9hf,9it 9iv,9iv 9iz,9j3 9j5,9li
  9ll,9lm 9lp,9lq 9ls,9oe 9ol,9pr 9sg,9sh 9sw,9ur 9v4,9vj 9xk,9xr 9z3,9z3 a9s,wi4 wi8,wjq
  wk0,wtn wu9,wu9 wub,wub wud,wud wuf,wuf wuh,wuh wuj,wuj wul,wul wun,wun wup,wup wur,wur
  wut,wut wuv,wuv wux,wux wuz,wuz wv1,wv1 wv3,wv3 wv5,wv5 wv7,wv7 wv9,wv9 wvb,wvb wvd,wvd
  wvf,wvf wvh,wvz ww1,ww1 ww3,ww3 ww5,ww5 ww7,ww7 ww9,ww9 wwb,wwb wwd,wwd wwf,wwf wwh,wwh
  wwj,wwj wwl,wwl wwn,wwn wwp,wwp wwr,wwr wwu,wzb wzk,x0h x0j,x0j x0l,x0l x0n,x0n x0p,x0p
  x0r,x0r x0t,x0t x0v,x0x x0z,x0z x11,x11 x13,x13 x15,x15 x17,x17 x19,x19 x1b,x1b x1d,x1d
  x1f,x1f x1h,x1h x1j,x1j x1l,x1l x1n,x1n x1p,x1p x1r,x1r x1t,x1t x1v,x1v x1x,x1x x1z,x1z
  x21,x21 x23,x23 x25,x25 x27,x27 x29,x29 x2b,x2b x2d,x2d x2f,x2f x2h,x2h x2j,x2j x2l,x2l
  x2n,x2n x2p,x2w x2y,x2y x30,x30 x33,x33 x35,x35 x37,x37 x39,x39 x3b,x3e x3g,x3g x3i,x3j
  x3l,x3l x3n,x3p x3r,x3r x3t,x3t x3v,x3v x3x,x3x x3z,x3z x41,x41 x43,x43 x45,x45 x47,x47
  x49,x49 x4f,x4f x4l,x4l x4n,x4n x4p,x4p x4r,x4r x4t,x4t x4v,x4v x4x,x4x x4z,x4z x54,x54
  x56,x56 x5d,x5d x5f,x5f x5h,x5h x5j,x5j x5l,x5l x6e,x6f x6i,x7w x80,x89 x8g,x9z xa8,xc5
  xce,xcp xcw,xg3 xgf,xh8 xhc,xjh xjj,xjt xjy,xku xkw,xme xmo,xn1 xn4,xnd xng,xqa xqz,xrq
  xs1,xs6 xs9,xse xsh,xsm xsw,xt2 xt4,xta xtc,xuj xuo,xuw xuy,xuz xxc,xyl xyo,xyx xz4,16lf
  16ls,16me 16mj,16nv 1de6,1de7 1de9,1de9 1deb,1dec 1den,1den 1dep,1dep 1der,1des 1dev,1dex
  1dlq,1dlq 1dpu,1dqa 1e0u,1e1b 1e4v,1e4v 1e65,1e67 1e74,1e7j 1e85,1e86 1e9f,1e9f 1ekg,1ekr
  1ekt,1eli 1elk,1em2 1em4,1em5 1em7,1eml 1emo,1en1 1eo0,1ere 1erk,1erm 1err,1esz 1et3,1evi
  1evk,1evw 1ew0,1ew0 1exc,1eyl 1f28,1f30 1f34,1f4g 1f4w,1f5n 1f5s,1f6r 1f71,1f7u 1f80,1f96
  1f9c,1fa5 1fa7,1fb7 1fbc,1fbp 1fe0,1fh9 1fhc,1fhl 1fiw,1fjv 1fk0,1fl3 1flc,1fmr 1fn3,1fn3
  1fo7,1foh 1foj,1fox 1foz,1fp5 1fp7,1fp8 1fr4,1fzq 1g00,1g0l 1g0w,1g13 1g1s,1g1s 1g5c,1g5h
  1g5k,1g5k 1g5m,1g6t 1g6v,1g6w 1g70,1g70 1g73,1g7p 1g7r,1g9q 1g9z,1ga7 1gbk,1gc2 1gc4,1gc5
  1gcb,1gd7 1gdb,1ge1 1ge7,1ge7 1gg0,1ghj 1gho,1gi7 1gia,1gjn 1gjp,1gjq 1gjw,1gk3 1gk5,1gk7
  1gk9,1gl1 1gl4,1gl6 1glb,1glk 1gls,1gm0 1gm8,1gnz 1gow,1gpy 1gq3,1gqe 1gqo,1gs5 1gs9,1gt1
  1gt4,1gtu 1gu0,1gup 1gux,1gv0 1gvd,1gvj 1gxs,1gzs 1h34,1h4i 1h4q,1h5z 1h68,1h6h 1heo,1hfi
  1hfk,1hgp 1hgr,1hgt 1hgw,1hgx 1hj1,1hk7 1hkg,1hll 1hm8,1hmx 1ho0,1hor 1hpc,1hpy 1hq8,1hsd
  1hsi,1hth 1htr,1hvg 1hvi,1hvm 1hw0,1hwo 1hww,1hx5 1hxc,1hys 1hyu,1hzb 1hzk,1i0m 1i0w,1i3j
  1i3l,1i44 1i4g,1i4x 1i4z,1i69 1i80,1i86 1i88,1i88 1i8a,1i8d 1i8f,1i8t 1i8v,1i95 1i9c,1iay
  1ib4,1ibd 1ibk,1ibn 1ibp,1ibw 1ibz,1ic0 1ic3,1ico 1icq,1icw 1icy,1icz 1id1,1id5 1id7,1idg
  1idj,1idk 1idn,1idp 1ids,1ids 1idz,1idz 1ie5,1ieb 1iee,1iek 1ieo,1ies 1iio,1il7 1il9,1ild
  1im8,1io7 1iog,1iop 1itc,1iut 1iuw,1ivx 1iww,1iys 1iz4,1izd 1izk,1izw 1j0g,1j21 1j28,1j2h
  1j40,1j4q 1j4t,1j57 1j5c,1j5y 1jb4,1jcr 1jgg,1jhu 1ji7,1jie 1jih,1jih 1jik,1jir 1jit,1jiu
  1jiw,1jjp 1jjr,1jjs 1jjv,1jk6 1jkg,1jkp 1jmo,1jmv 1jmy,1jo7 1joa,1jok 1jpc,1jrb 1jrk,1jtu
  1ju8,1jw8 1jwg,1jwp 1k3k,1k3s 1k3u,1k52 1k54,1k5h 1k5s,1k6k 1k6o,1k7j 1k7m,1k87 1k89,1k8m
  1kao,1kau 1kaw,1kax 1kaz,1kc6 1kca,1kca 1kcc,1kcd 1kcf,1kcn 1kcw,1kd5 1kdc,1kdh 1kdj,1kdk
  1kdm,1kem 1keo,1kep 1ker,1kew 1kf4,1kfd 1ko0,1koo 1kow,1kpc 1kpe,1kqi 1kqm,1krd 1kts,1kts
  1ku8,1kvl 1kvz,1lll 1log,1lri 1lrk,1lro 1ls0,1lxf 1nyo,1o1e 1o1s,1ovj 1ow0,1owl 1s00,1sg6
  1z40,1zjs 1zk0,1zku 1zkw,1zl5 1zla,1zni 1znk,1znt 1zo0,1zot 1zow,1zp1 1zpc,1zr9 1zrk,1zrt
  1zrv,1zs1 1zs3,1zsn 1zst,1ztb 20dc,20ey 20hs,20ju 20jz,20lj 20lr,20m7 20o0,20o4 20og,20oh
  20ow,25fb 25fk,26dx 26f4,26fc 2dbk,2dbn 2dbp,2dbv 2dbx,2dby 2dc0,2dk2 2dki,2dki 2dlc,2dle
  2dlh,2dlh 2dlw,2dlz 2dm8,2dx7 2fpc,2fsa 2fsg,2fss 2fsw,2ft4 2ftc,2ftl 2fto,2ftr 2jgg,2jhp
  2jhs,2jie 2jio,2jlv 2jnk,2jud 2juo,2jvq 2jvt,2jx9 2jxh,2jxu 2jy3,2jzu 2k01,2k16 2k1s,2k3p
  2k74,2k7n 2k80,2k8j 2k8w,2kba 2kbk,2kc8 2l8g,2lqj 2lqz,2lr3 2lr5,2lrj 2mm8,2mn2 2mn9,2mne
  2mtc,2mti 2mtk,2mu0 2mu3,2mu9 2mub,2muc 2mue,2mui 2mxb,2mxb 2n0g,2n1o 2n1s,2n25 2n28,2n2h
  2n2m,2n2n 2nbk,2nce 2ncw,2neh 2nen,2nen 2nrk,2nsp 2odc,2odi 2odk,2odn 2odp,2odq 2ods,2oe6
  2oe8,2ojo 2ojr,2ok6 2oma,2onf 2onk,2ont 2ony,2onz 2p9t,2pbo 2pdt,2pfh 2prk,2prl 2pz4,2q0b
  2q0g,2q37 2q3k,2q3y 2q41,2q4f 2q4h,2q4v 2q4x,2q5x 2q6j,2q6n 2q7j,2q7j 2q8g,2q95 2q99,2qa7
  2qa9,2qb1 2qcm,2qdb 2qg0,2qg5 2qkg,2rbr 2rbw,2rcc 2rcg,2rcs 2rcw,2rg6 2rgb,2rix 2rj4,2rjf
  2rjk,2rjk 2rk0,2rkb 2rkg,2rlz 2rm8,2rmh 2rmo,2rnr 2ro0,2rot 2row,2rox 2rr4,2s0j 2s0w,2s19
  2s1c,2s1o 2s1s,2s20 2s28,2s3h 2s3j,2s3p 2s3y,2s4b 2s4g,2s4o 2s4w,2s54 2s5c,2s9e 2s9g,2say
  2t4w,3q3j 3q4g,3tbt 3tc0,3ti5 3ti8,3xy9 3xyo,43q8 47pc,4bii 4bio,4er3"

def ignoredText : String :=
  "4t,4t nj,nj 4qz,4r1 4r3,4r3 6bv,6bv 6e8,6e8 6ec,6ec 1e68,1e6n 1edb,1edb 2fts,2ftv jo5c,jobz"

def runText : String :=
  "1t,2i,1,2p 4g,4g,1,w 4q,4q,1,2p 4y,4z,1,1e 51,51,1,qk 55,55,1,1d 56,56,1,33 5c,5y,1,68
  60,66,1,6w 74,8e,2,75 8k,8m,2,8l 8p,8t,2,8q 8x,93,2,8y 96,ae,2,97 ag,ag,1,73 ah,al,2,ai
  an,an,1,37 ap,ap,1,gj aq,as,2,ar au,au,1,gk av,av,1,aw ax,ay,1,gm az,az,1,b0 b2,b2,1,d9
  b3,b3,1,gp b4,b4,1,gr b5,b5,1,b6 b7,b7,1,gw b8,b8,1,gz ba,ba,1,h5 bb,bb,1,h4 bc,bc,1,bd
  bg,bg,1,hb bh,bh,1,he bj,bj,1,hh bk,bo,2,bl bq,bq,1,hs br,br,1,bs bt,bt,1,hv bw,bw,1,bx
  by,by,1,i0 bz,bz,1,c0 c1,c2,1,i2 c3,c5,2,c4 c7,c7,1,ia c8,c8,1,c9 cc,cc,1,cd ct,d7,2,cu
  da,dq,2,db dw,dw,1,dx dy,dy,1,b9 dz,dz,1,cf e0,f2,2,e1 f4,f4,1,bi f6,fm,2,f7 fu,fu,1,8rp
  fv,fv,1,fw fx,fx,1,be fy,fy,1,8rq g1,g1,1,g2 g3,g3,1,ao g4,g4,1,i1 g5,g5,1,i4 g6,ge,2,g7
  j4,j4,1,2w j5,j5,1,h2 j6,j6,1,2y j7,j7,1,36 j8,j8,1,hl j9,j9,1,hn ja,ja,1,ht jb,jb,1,3b
  jc,jc,1,3d kg,kg,1,gz kh,kh,1,30 ki,ki,1,37 kj,kj,1,3c kk,kk,1,id n4,n5,1,lc n7,n7,1,lv
  n9,n9,1,qh og,oi,2,oh ok,ok,1,jd om,om,1,on ou,ou,1,1n ov,ov,1,s3 p2,p2,1,q4 p3,p3,1,53
  p4,p6,1,q5 p8,p8,1,r0 pa,pb,1,r1 pd,pt,1,q9 pv,q3,1,qr r3,r3,1,rb r4,r4,1,qa r5,r5,1,qg
  r6,r6,1,qt r7,r7,1,r1 r8,r8,1,qz r9,r9,1,qu ra,ra,1,qo rc,ry,2,rd s0,s0,1,qi s1,s1,1,qp
  s2,s2,1,qr s4,s4,1,qg s5,s5,1,qd s7,s7,1,s8 s9,s9,1,qr sa,sa,1,sb sd,sf,1,or sg,sv,1,uo
  sw,tr,1,ts v4,w0,2,v5 wa,xq,2,wb xt,y5,2,xu y8,10u,2,y9 10x,11y,1,129 2z0,2z0,1,2yz
  3bb,3bb,1,8x3 3bh,3bh,1,8x9 3cs,3cs,1,3bw 3y0,3y5,1,3xs 5mo,5mo,1,tu 5mp,5mp,1,tw
  5mq,5mq,1,u6 5mr,5ms,1,u9 5mt,5mt,1,ua 5mu,5mu,1,ui 5mv,5mv,1,v7 5mw,5mw,1,wuj 5n4,5oa,1,3bk
  5od,5of,1,3ct 5rg,5rg,1,2p 5rh,5rh,1,6e 5ri,5rk,2,2q 5rl,5rl,1,2t 5rm,5rm,1,d9 5rn,5ru,1,2v
  5rw,5rw,1,33 5rx,5rx,1,f7 5ry,5ry,1,34 5rz,5rz,1,36 5s0,5s1,1,38 5s2,5s2,1,3b 5s3,5s3,1,2p
  5s4,5s5,1,gg 5s6,5s6,1,5qa 5s7,5s7,1,2q 5s8,5s9,1,2s 5sa,5sa,1,gp 5sb,5sc,1,gr 5sd,5sd,1,2v
  5sf,5sf,1,2z 5sg,5sg,1,31 5sh,5sh,1,97 5si,5si,1,33 5sj,5sj,1,gk 5sk,5sl,1,5qu 5sm,5sm,1,34
  5sn,5so,1,38 5sp,5sp,1,5r1 5sq,5sq,1,hb 5sr,5sr,1,3a 5ss,5ss,1,5r9 5st,5sv,1,qa 5sw,5sx,1,qu
  5sy,5sy,1,2x 5sz,5sz,1,36 5t0,5t1,1,39 5t2,5t3,1,qa 5t4,5t4,1,qp 5t5,5t6,1,qu 5tk,5tk,1,u5
  5uj,5uj,1,gi 5uk,5uk,1,2r 5ul,5ul,1,gl 5um,5um,1,6o 5un,5un,1,gs 5uo,5uo,1,2u 5up,5up,1,gv
  5uq,5uq,1,gx 5ur,5ur,1,h1 5us,5uu,1,h4 5uv,5uv,1,5tn 5uw,5uw,1,il 5ux,5ux,1,h9 5uy,5uy,1,5tx
  5uz,5uz,1,in 5v0,5v0,1,hd 5v1,5v1,1,hc 5v2,5v5,1,he 5v6,5v6,1,hk 5v7,5v8,1,hu 5v9,5v9,1,bv
  5va,5vb,1,i1 5vc,5vc,1,5r0 5vd,5ve,1,i3 5vf,5vf,1,3e 5vg,5vi,1,i8 5vj,5vj,1,qg 5xc,61g,2,5xd
  61n,61n,1,601 61s,64e,2,61t 64o,64v,1,64g 654,659,1,64w 65k,65r,1,65c 660,667,1,65s
  66g,66l,1,668 66x,673,2,66p 67c,67j,1,674 67l,67l,1,q4 67n,67n,1,q5 67p,67p,1,q6
  67r,67r,1,q7 67t,67t,1,r0 67v,67v,1,r1 67x,67x,1,r2 69k,69l,1,69c 69m,69m,1,67k 69n,69n,1,q4
  69q,69q,1,qh 6a0,6a0,1,67m 6a1,6a1,1,q5 6a2,6a2,1,67o 6a3,6a3,1,q6 6ab,6ab,1,pc
  6ag,6ah,1,6a8 6ai,6ai,1,67q 6aj,6aj,1,q7 6ar,6ar,1,q8 6aw,6ax,1,6ao 6ay,6ay,1,67u
  6az,6az,1,r1 6b0,6b0,1,6at 6b3,6b3,1,2o 6bc,6bc,1,67s 6bd,6bd,1,r0 6be,6be,1,67w
  6bf,6bf,1,r2 6bk,6bk,1,w 6bl,6bl,1,w 6bm,6bm,1,w 6bn,6bn,1,w 6bo,6bo,1,w 6bp,6bp,1,w
  6bq,6bq,1,w 6br,6br,1,w 6bs,6bs,1,w 6bt,6bt,1,w 6bu,6bu,1,w 6c1,6c1,1,6c0 6cv,6cv,1,w
  6e7,6e7,1,w 6eo,6eo,1,1c 6ep,6ep,1,2x 6es,6ex,1,1g 6ey,6ey,1,17 6ez,6ez,1,6qa 6f0,6f0,1,1p
  6f1,6f2,1,14 6f3,6f3,1,32 6f4,6fd,1,1c 6fe,6fe,1,17 6ff,6ff,1,6qa 6fg,6fg,1,1p 6fh,6fi,1,14
  6fk,6fk,1,2p 6fl,6fl,1,2t 6fm,6fm,1,33 6fn,6fn,1,3c 6fo,6fo,1,gp 6fp,6fp,1,2w 6fq,6ft,1,2z
  6fu,6fu,1,34 6fv,6fw,1,37 6iq,6iq,1,2r 6iv,6iv,1,gr 6iy,6iz,1,2v 6j0,6j0,1,2w 6j1,6j1,1,2w
  6j2,6j2,1,2w 6j3,6j3,1,87 6j4,6j4,1,2x 6j5,6j5,1,2x 6j6,6j6,1,30 6j7,6j9,2,30 6jd,6jf,1,34
  6jg,6jg,1,36 6jh,6jh,1,36 6jo,6jo,1,3e 6jq,6jq,1,qx 6js,6js,1,3e 6ju,6ju,1,2z 6jv,6jv,1,6d
  6jw,6jx,1,2q 6jz,6jz,1,2t 6k0,6k1,1,2t 6k3,6k3,1,31 6k4,6k4,1,33 6k5,6k8,1,15c 6k9,6k9,1,2x
  6kc,6kc,1,qo 6kd,6kd,1,qb 6ke,6ke,1,qb 6kf,6kf,1,qo 6kg,6kg,1,6q9 6kl,6kl,1,2s 6km,6kn,1,2s
  6ko,6kp,1,2x 6lc,6lc,1,2x 6lg,6lg,1,3a 6ll,6ll,1,3c 6lo,6lo,1,30 6lp,6lq,1,2r 6lr,6lr,1,31
  6ls,6ls,1,2x 6lw,6lw,1,3a 6m1,6m1,1,3c 6m4,6m4,1,30 6m5,6m6,1,2r 6m7,6m7,1,31 6y1,6y2,1,9hk
  76o,76w,1,1d 792,79r,1,2p 79s,7ah,1,2p 7ai,7ai,1,1c 8ow,8q7,1,8q8 8rk,8rk,1,8rl 8rm,8rm,1,h7
  8rn,8rn,1,5tp 8ro,8ro,1,hp 8rr,8rv,2,8rs 8rx,8rx,1,gh 8ry,8ry,1,hd 8rz,8rz,1,gg 8s0,8s0,1,gi
  8s2,8s2,1,8s3 8s5,8s5,1,8s6 8sc,8sc,1,2y 8sd,8sd,1,3a 8se,8sf,1,fz 8sg,8v6,2,8sh
  8vf,8vh,2,8vg 8vm,8vm,1,8vn 8z3,8z3,1,8yp 97j,97j,1,lal 99v,99v,1,vj3 9a8,9a8,1,feo
  9a9,9a9,1,ffs 9aa,9aa,1,fg6 9ab,9ab,1,fgf 9ac,9ac,1,fh5 9ad,9ad,1,fid 9ae,9ae,1,fik
  9af,9af,1,fj4 9ag,9ag,1,fju 9ah,9ah,1,g1r 9ai,9ai,1,g2t 9aj,9aj,1,g2z 9ak,9ak,1,g3m
  9al,9al,1,g46 9am,9am,1,g4r 9an,9an,1,g68 9ao,9ao,1,g6t 9ap,9ap,1,g74 9aq,9aq,1,gbf
  9ar,9ar,1,ge1 9as,9as,1,get 9at,9at,1,gey 9au,9au,1,gfs 9av,9av,1,gg1 9aw,9aw,1,ggs
  9ax,9ax,1,gh5 9ay,9ay,1,ghu 9az,9az,1,gja 9b0,9b0,1,gjs 9b1,9b1,1,gkj 9b2,9b2,1,h5j
  9b3,9b3,1,h7j 9b4,9b4,1,hkb 9b5,9b5,1,hky 9b6,9b6,1,hl6 9b7,9b7,1,hlh 9b8,9b8,1,hlz
  9b9,9b9,1,ho3 9ba,9ba,1,i1c 9bb,9bb,1,i2o 9bc,9bc,1,i60 9bd,9bd,1,i6n 9be,9be,1,i76
  9bf,9bf,1,i7s 9bg,9bg,1,i9a 9bh,9bh,1,i9d 9bi,9bi,1,ijf 9bj,9bj,1,ijp 9bk,9bk,1,ik1
  9bl,9bl,1,ike 9bm,9bm,1,inm 9bn,9bn,1,inu 9bo,9bo,1,inz 9bp,9bp,1,ir8 9bq,9bq,1,iri
  9br,9br,1,irv 9bs,9bs,1,is3 9bt,9bt,1,its 9bu,9bu,1,iu9 9bv,9bv,1,iur 9bw,9bw,1,iwz
  9bx,9bx,1,jd4 9by,9by,1,jee 9bz,9bz,1,jez 9c0,9c0,1,jzj 9c1,9c1,1,jzo 9c2,9c2,1,k1z
  9c3,9c3,1,k2f 9c4,9c4,1,k2s 9c5,9c5,1,k3d 9c6,9c6,1,k4g 9c7,9c7,1,k4l 9c8,9c8,1,kc0
  9c9,9c9,1,kco 9ca,9ca,1,kdk 9cb,9cb,1,l5s 9cc,9cc,1,l7m 9cd,9cd,1,l89 9ce,9ce,1,l9v
  9cf,9cf,1,laj 9cg,9cg,1,las 9ch,9ch,1,laz 9ci,9ci,1,lcf 9cj,9cj,1,lck 9ck,9ck,1,ldg
  9cl,9cl,1,m7f 9cm,9cm,1,mju 9cn,9cn,1,mk6 9co,9co,1,mkb 9cp,9cp,1,mkf 9cq,9cq,1,mkn
  9cr,9cr,1,ml5 9cs,9cs,1,ml7 9ct,9ct,1,mng 9cu,9cu,1,mtg 9cv,9cv,1,mtl 9cw,9cw,1,n30
  9cx,9cx,1,n3a 9cy,9cy,1,n4o 9cz,9cz,1,n4v 9d0,9d0,1,n54 9d1,9d1,1,n5c 9d2,9d2,1,n7v
  9d3,9d3,1,n82 9d4,9d4,1,nee 9d5,9d5,1,nel 9d6,9d6,1,nfy 9d7,9d7,1,ngf 9d8,9d8,1,nhq
  9d9,9d9,1,nob 9da,9da,1,noi 9db,9db,1,noz 9dc,9dc,1,ny2 9dd,9dd,1,o1k 9de,9de,1,o1q
  9df,9df,1,o6s 9dg,9dg,1,o97 9dh,9dh,1,oah 9di,9di,1,okz 9dj,9dj,1,ooo 9dk,9dk,1,p4m
  9dl,9dl,1,p5d 9dm,9dm,1,p6y 9dn,9dn,1,p8d 9do,9do,1,pa9 9dp,9dp,1,pak 9dq,9dq,1,paq
  9dr,9dr,1,pbn 9ds,9ds,1,pdr 9dt,9dt,1,pe1 9du,9du,1,pnn 9dv,9dv,1,pnu 9dw,9dw,1,po3
  9dx,9dx,1,poc 9dy,9dy,1,pos 9dz,9dz,1,pp7 9e0,9e0,1,ppb 9e1,9e1,1,pri 9e2,9e2,1,prm
  9e3,9e3,1,prs 9e4,9e4,1,qj1 9e5,9e5,1,qjv 9e6,9e6,1,qww 9e7,9e7,1,qx8 9e8,9e8,1,qxv
  9e9,9e9,1,r5q 9ea,9ea,1,r63 9eb,9eb,1,r82 9ec,9ec,1,r9c 9ed,9ed,1,rp3 9ee,9ee,1,rpi
  9ef,9ef,1,rpx 9eg,9eg,1,rqw 9eh,9eh,1,rrx 9ei,9ei,1,rxg 9ej,9ej,1,rxs 9ek,9ek,1,rzn
  9el,9el,1,s6j 9em,9em,1,s7e 9en,9en,1,sd7 9eo,9eo,1,sds 9ep,9ep,1,sdx 9eq,9eq,1,sk1
  9er,9er,1,sp5 9es,9es,1,ssm 9et,9et,1,sss 9eu,9eu,1,ssx 9ev,9ev,1,tiv 9ew,9ew,1,tj4
  9ex,9ex,1,tng 9ey,9ey,1,trq 9ez,9ez,1,trt 9f0,9f0,1,tt4 9f1,9f1,1,tw1 9f2,9f2,1,twe
  9f3,9f3,1,twi 9f4,9f4,1,twp 9f5,9f5,1,tzf 9f6,9f6,1,u0d 9f7,9f7,1,u0j 9f8,9f8,1,u0x
  9f9,9f9,1,u5k 9fa,9fa,1,u6z 9fb,9fb,1,u73 9fc,9fc,1,uc6 9fd,9fd,1,uc9 9fe,9fe,1,ucs
  9ff,9ff,1,ujs 9fg,9fg,1,ul4 9fh,9fh,1,ulb 9fi,9fi,1,un9 9fj,9fj,1,unj 9fk,9fk,1,unm
  9fl,9fl,1,unw 9fm,9fm,1,uoq 9fn,9fn,1,uzp 9fo,9fo,1,vat 9fp,9fp,1,vb3 9fq,9fq,1,vc5
  9fr,9fr,1,vcr 9fs,9fs,1,vcz 9ft,9ft,1,vd9 9fu,9fu,1,vdd 9fv,9fv,1,veh 9fw,9fw,1,vel
  9fx,9fx,1,vf2 9fy,9fy,1,vf7 9fz,9fz,1,vfk 9g0,9g0,1,vgb 9g1,9g1,1,vgq 9g2,9g2,1,vgy
  9g3,9g3,1,vil 9g4,9g4,1,vj0 9g5,9g5,1,vj4 9hc,9hc,1,w 9he,9he,1,1a 9iu,9iu,1,9hu
  9iw,9iw,1,gg1 9ix,9iy,1,gg4 9pt,9pu,1,3cw 9pv,9pv,1,3hm 9pw,9pw,1,3cy 9px,9py,1,3ho
  9pz,9q1,1,3cz 9q2,9q7,1,3hs 9q8,9q8,1,3dm 9q9,9qb,1,3d2 9qc,9qc,1,3dt 9qd,9qm,1,3d5
  9qn,9r7,1,3fl 9r9,9ra,1,3dg 9rb,9rc,1,3if 9rd,9rd,1,3ik 9re,9re,1,3im 9rf,9rf,1,3ir
  9rg,9rg,1,3iv 9rh,9rh,1,3ix 9ri,9ri,1,3do 9rj,9rj,1,3j1 9rk,9rk,1,3j3 9rl,9rm,1,3dp
  9rn,9rn,1,3ds 9ro,9rp,1,3du 9rq,9rq,1,3dz 9rr,9rr,1,3e1 9rs,9rw,1,3e3 9rx,9rx,1,3ea
  9ry,9ry,1,3ee 9rz,9rz,1,3eo 9s0,9s0,1,3ev 9s1,9s1,1,3f0 9s2,9s3,1,3jl 9s4,9s6,1,3fb
  9s7,9s8,1,3gk 9s9,9s9,1,3go 9sa,9sb,1,3gx 9sc,9sc,1,3h0 9sd,9sd,1,3ha 9se,9se,1,3hd
  9si,9si,1,feo 9sj,9sj,1,fik 9sk,9sk,1,fex 9sl,9sl,1,h5n 9sm,9sm,1,fey 9sn,9sn,1,ffx
  9so,9so,1,fez 9sp,9sp,1,n5e 9sq,9sq,1,fh5 9sr,9sr,1,ffd 9ss,9ss,1,fep 9st,9st,1,hm1
  9su,9su,1,h80 9sv,9sv,1,fju 9xg,9xg,1,gun 9xh,9xh,1,inw 9xi,9xi,1,k1z 9xj,9xj,1,oen
  9y8,9y8,1,3cw 9y9,9ya,1,3cy 9yb,9yd,1,3d1 9ye,9ye,1,3d5 9yf,9yg,1,3d7 9yh,9yl,1,3da
  9ym,9ym,1,xz4 9yn,9yn,1,yvs 9yo,9yo,1,zc4 9yp,9yp,1,108s 9yq,9yq,1,10p4 9yr,9yr,1,115g
  9ys,9ys,1,1224 9yt,9yt,1,12ys 9yu,9yu,1,13f4 9yv,9yv,1,14bs 9yw,9yw,1,14s4 9yx,9yx,1,158g
  9yy,9yy,1,15os 9yz,9yz,1,1654 9z2,9z2,1,138w 9z4,9z4,1,feo 9z5,9z5,1,fik 9z6,9z6,1,fex
  9z7,9z7,1,h5n 9z8,9z8,1,fis 9z9,9z9,1,g31 9za,9za,1,fer 9zb,9zb,1,g2z 9zc,9zc,1,fh9
  9zd,9zd,1,gg1 9ze,9ze,1,kco 9zf,9zf,1,m7f 9zg,9zg,1,ldg 9zh,9zh,1,kdk 9zi,9zi,1,ssx
  9zj,9zj,1,h7j 9zk,9zk,1,k4l 9zl,9zl,1,kkq 9zm,9zm,1,kcp 9zn,9zn,1,ny6 9zo,9zo,1,glp
  9zp,9zp,1,mm1 9zq,9zq,1,rs1 9zr,9zr,1,nz1 9zs,9zs,1,gc4 9zt,9zt,1,o2g 9zu,9zu,1,n5j
  9zv,9zv,1,ho3 9zw,9zw,1,six 9zx,9zx,1,g16 9zy,9zy,1,ghc 9zz,9zz,1,lig a00,a00,1,u11
  a01,a01,1,fm9 a02,a02,1,g49 a03,a03,1,l7n a04,a04,1,fey a05,a05,1,ffx a06,a06,1,fez
  a07,a07,1,ijq a08,a08,1,gkz a09,a09,1,gfv a0a,a0a,1,i3b a0b,a0b,1,i1y a0c,a0c,1,nhf
  a0d,a0d,1,flt a0e,a0e,1,rt3 a0f,a0f,1,ggk a0g,a0g,1,hlo a1c,a1c,1,9lu a1d,a1d,1,9lw
  a1e,a1e,1,9ly a1f,a1f,1,9m0 a1g,a1h,1,9m2 a1i,a1i,1,9m5 a1j,a1j,1,9m7 a1k,a1k,1,9m9
  a1l,a1l,1,9mb a1m,a1m,1,9md a1n,a1n,1,9mf a1o,a1o,1,9mh a1p,a1p,1,9mj a1q,a1q,1,9ml
  a1r,a1r,1,9mn a1s,a1s,1,9mp a1t,a1t,1,9ms a1u,a1u,1,9mu a1v,a1v,1,9mw a1w,a21,1,9my
  a22,a22,1,9n6 a23,a23,1,9n9 a24,a24,1,9nc a25,a25,1,9nf a26,a2a,1,9ni a2b,a2b,1,9no
  a2c,a2c,1,9nq a2d,a2i,1,9ns a2j,a2m,1,9nz wu8,wvg,2,wu9 ww0,wwq,2,ww1 wws,wws,1,ui
  wwt,wwt,1,uk x0i,x0u,2,x0j x0y,x2m,2,x0z x2o,x2o,1,x2n x2x,x2z,2,x2y x31,x31,1,5tl
  x32,x3a,2,x33 x3f,x3f,1,x3g x3h,x3h,1,h1 x3k,x3m,2,x3l x3q,x48,2,x3r x4a,x4a,1,h2
  x4b,x4b,1,gs x4c,x4c,1,gx x4d,x4d,1,h8 x4e,x4e,1,h6 x4g,x4g,1,im x4h,x4h,1,hz x4i,x4i,1,il
  x4j,x4j,1,xub x4k,x4y,2,x4l x50,x50,1,x3o x51,x51,1,hu x52,x52,1,5u6 x53,x55,2,x54
  x5c,x5c,1,x5d x5i,x5k,2,x5j x6a,x6a,1,2r x6b,x6b,1,2u x6c,x6c,1,35 x6d,x6d,1,x6e
  x6g,x6g,1,87 x6h,x6h,1,9f xuk,xuk,1,x0n xul,xul,1,xtj xum,xum,1,h7 xun,xun,1,xua
  xux,xux,1,i5 xv4,xxb,1,3vk 1d6o,1d6o,1,rpk 1d6p,1d6p,1,kc4 1d6q,1d6q,1,s7e 1d6r,1d6r,1,rt4
  1d6s,1d6s,1,lw1 1d6t,1d6t,1,fg2 1d6u,1d6u,1,gkl 1d6v,1d6v,1,vj0 1d6w,1d6w,1,vj0
  1d6x,1d6x,1,hn5 1d6y,1d6y,1,ssx 1d6z,1d6z,1,gw7 1d70,1d70,1,hmw 1d71,1d71,1,jcm
  1d72,1d72,1,ne1 1d73,1d73,1,p6t 1d74,1d74,1,qin 1d75,1d75,1,qt6 1d76,1d76,1,r20
  1d77,1d77,1,sjz 1d78,1d78,1,kxu 1d79,1d79,1,ljv 1d7a,1d7a,1,mah 1d7b,1d7b,1,mvy
  1d7c,1d7c,1,q4d 1d7d,1d7d,1,sq2 1d7e,1d7e,1,uep 1d7f,1d7f,1,fia 1d7g,1d7g,1,ghh
  1d7h,1d7h,1,l50 1d7i,1d7i,1,mjf 1d7j,1d7j,1,qi5 1d7k,1d7k,1,v8e 1d7l,1d7l,1,ifk
  1d7m,1d7m,1,m3v 1d7n,1d7n,1,qfh 1d7o,1d7o,1,r50 1d7p,1d7p,1,jih 1d7q,1d7q,1,pnc
  1d7r,1d7r,1,qvz 1d7s,1d7s,1,iq2 1d7t,1d7t,1,kd3 1d7u,1d7u,1,lm2 1d7v,1d7v,1,mpo
  1d7w,1d7w,1,slq 1d7x,1d7x,1,fpi 1d7y,1d7y,1,g53 1d7z,1d7z,1,gda 1d80,1d80,1,jwk
  1d81,1d81,1,l3n 1d82,1d82,1,mj4 1d83,1d83,1,nhj 1d84,1d84,1,pa9 1d85,1d85,1,qh2
  1d86,1d86,1,qjg 1d87,1d87,1,s1b 1d88,1d88,1,tv6 1d89,1d89,1,upb 1d8a,1d8a,1,v7e
  1d8b,1d8b,1,nt8 1d8c,1d8c,1,nzz 1d8d,1d8d,1,otc 1d8e,1d8e,1,q15 1d8f,1d8f,1,t1g
  1d8g,1d8g,1,vb3 1d8h,1d8h,1,rfa 1d8i,1d8i,1,hjz 1d8j,1d8j,1,iro 1d8k,1d8k,1,okg
  1d8l,1d8l,1,pdq 1d8m,1d8m,1,mle 1d8n,1d8n,1,nuy 1d8o,1d8o,1,rsy 1d8p,1d8p,1,ttj
  1d8q,1d8q,1,hjs 1d8r,1d8r,1,i8y 1d8s,1d8s,1,kyb 1d8t,1d8t,1,lp6 1d8u,1d8u,1,lxr
  1d8v,1d8v,1,oq7 1d8w,1d8w,1,oxj 1d8x,1d8x,1,tor 1d8y,1d8y,1,gcy 1d8z,1d8z,1,pe3
  1d90,1d90,1,g64 1d91,1d91,1,g5o 1d92,1d92,1,o4c 1d93,1d93,1,ou6 1d94,1d94,1,q29
  1d95,1d95,1,tpx 1d96,1d96,1,rk0 1d97,1d97,1,jin 1d98,1d98,1,kxu 1d99,1d99,1,rge
  1d9a,1d9a,1,fg9 1d9b,1d9b,1,i5j 1d9c,1d9c,1,iz6 1d9d,1d9d,1,mtj 1d9e,1d9e,1,n74
  1d9f,1d9f,1,gev 1d9g,1d9g,1,nwb 1d9h,1d9h,1,fr3 1d9i,1d9i,1,iw9 1d9j,1d9j,1,ff1
  1d9k,1d9k,1,lho 1d9l,1d9l,1,k1k 1d9m,1d9m,1,opu 1d9n,1d9n,1,gjn 1d9o,1d9o,1,hge
  1d9p,1d9p,1,ni9 1d9q,1d9q,1,q4p 1d9r,1d9r,1,re2 1d9s,1d9s,1,la2 1d9t,1d9t,1,sds
  1d9u,1d9u,1,lfs 1d9v,1d9v,1,jjy 1d9w,1d9w,1,put 1d9x,1d9x,1,jog 1d9y,1d9y,1,n6t
  1d9z,1d9z,1,fji 1da0,1da0,1,g2x 1da1,1da1,1,g5l 1da2,1da2,1,kn5 1da3,1da3,1,oo7
  1da4,1da4,1,prj 1da5,1da5,1,rf6 1da6,1da6,1,ssv 1da7,1da7,1,gdx 1da8,1da8,1,gn6
  1da9,1da9,1,ho3 1daa,1daa,1,ir0 1dab,1dab,1,k3p 1dac,1dac,1,m4e 1dad,1dad,1,nxm
  1dae,1dae,1,tkd 1daf,1daf,1,ui2 1dag,1dag,1,vbr 1dah,1dah,1,vda 1dai,1dai,1,gbf
  1daj,1daj,1,kau 1dak,1dak,1,l87 1dal,1dal,1,sbm 1dam,1dam,1,ino 1dan,1dan,1,j9s
  1dao,1dao,1,jcw 1dap,1dap,1,jve 1daq,1daq,1,lyb 1dar,1dar,1,mdl 1das,1das,1,n0p
  1dat,1dat,1,o22 1dau,1dau,1,ovo 1dav,1dav,1,pdb 1daw,1daw,1,s9y 1dax,1dax,1,q9a
  1day,1day,1,sgz 1daz,1daz,1,t3e 1db0,1db0,1,g7r 1db1,1db1,1,gbn 1db2,1db2,1,gql
  1db3,1db3,1,ma0 1db4,1db4,1,r0i 1db5,1db5,1,re2 1db6,1db6,1,iq1 1db7,1db7,1,iyd
  1db8,1db8,1,jnf 1db9,1db9,1,l9q 1dba,1dba,1,oji 1dbb,1dbb,1,mt1 1dbc,1dbc,1,fl0
  1dbd,1dbd,1,h6h 1dbe,1dbe,1,i5j 1dbf,1dbf,1,iii 1dbg,1dbg,1,izg 1dbh,1dbh,1,muq
  1dbi,1dbi,1,mzt 1dbj,1dbj,1,p7e 1dbk,1dbk,1,pc6 1dbl,1dbl,1,svo 1dbm,1dbm,1,tti
  1dbn,1dbn,1,tvs 1dbo,1dbo,1,u1k 1dbp,1dbp,1,fpn 1dbq,1dbq,1,o1a 1dbr,1dbr,1,ss4
  1dbs,1dbs,1,trs 1dbt,1dbt,1,j4x 1dbu,1dbu,1,fie 1dbv,1dbv,1,fyy 1dbw,1dbw,1,i5q
  1dbx,1dbx,1,i7z 1dby,1dby,1,k2h 1dbz,1dbz,1,kxu 1dc0,1dc0,1,mha 1dc1,1dc1,1,ncy
  1dc2,1dc2,1,q9o 1dc3,1dc3,1,sjg 1dc4,1dc4,1,vil 1dc5,1dc5,1,k94 1dc6,1dc6,1,tny
  1dc7,1dc7,1,gax 1dc8,1dc8,1,kfv 1dc9,1dc9,1,kj7 1dca,1dca,1,lkx 1dcb,1dcb,1,luk
  1dcc,1dcc,1,mx5 1dcd,1dcd,1,n6h 1dce,1dce,1,nsb 1dcf,1dcf,1,opc 1dcg,1dcg,1,u3i
  1dch,1dch,1,g31 1dci,1dci,1,je6 1dcj,1dcj,1,tq0 1dck,1dck,1,fu3 1dcl,1dcl,1,ie1
  1dcm,1dcm,1,lpm 1dcn,1dcn,1,sa2 1dco,1dco,1,ivf 1dcp,1dcp,1,j7o 1dcq,1dcq,1,kk7
  1dcr,1dcr,1,mtj 1dcs,1dcs,1,tqe 1dct,1dct,1,g89 1dcu,1dcu,1,glr 1dcv,1dcv,1,i91
  1dcw,1dcw,1,k5v 1dcx,1dcx,1,kem 1dcy,1dcy,1,ko8 1dcz,1dcz,1,lid 1dd0,1dd0,1,mx2
  1dd1,1dd1,1,naa 1dd2,1dd2,1,p6h 1dd3,1dd3,1,r0v 1dd4,1dd4,1,r1d 1dd5,1dd5,1,sss
  1dd6,1dd6,1,tsy 1dd7,1dd7,1,gfz 1dd8,1dd8,1,lve 1dd9,1dd9,1,gm5 1dda,1dda,1,mhc
  1ddb,1ddb,1,n14 1ddc,1ddc,1,qgq 1ddd,1ddd,1,tr7 1dde,1dde,1,uvr 1ddf,1ddf,1,vbz
  1ddg,1ddg,1,kgn 1ddh,1ddh,1,lor 1ddi,1ddi,1,pns 1ddj,1ddj,1,o97 1ddk,1ddk,1,obk
  1ddl,1ddl,1,olu 1ddm,1ddm,1,mo0 1ddn,1ddn,1,m8p 1ddo,1ddo,1,riw 1ddp,1ddp,1,fk0
  1ddq,1ddq,1,px2 1ddr,1ddr,1,g8q 1dds,1dds,1,g7b 1ddt,1ddt,1,ip2 1ddu,1ddu,1,jir
  1ddv,1ddv,1,onq 1ddw,1ddw,1,i2t 1ddx,1ddx,1,ljy 1ddy,1ddy,1,kac 1ddz,1ddz,1,saj
  1de0,1de0,1,qx8 1de1,1de1,1,tot 1de2,1de2,1,r63 1de3,1de3,1,iqb 1de4,1de4,1,g1s
  1de5,1de5,1,gxs 1de8,1de8,1,hga 1dea,1dea,1,k8k 1ded,1ded,1,g66 1dee,1dee,1,mqy
  1def,1def,1,ngq 1deg,1deg,1,ny4 1deh,1deh,1,nz2 1dei,1dei,1,nz9 1dej,1dej,1,o0f
  1dek,1dek,1,tw6 1del,1del,1,on2 1dem,1dem,1,p8d 1deo,1deo,1,qhe 1deq,1deq,1,rg8
  1det,1det,1,shk 1deu,1deu,1,sn1 1dey,1dey,1,u7j 1dez,1dez,1,u7w 1df0,1df0,1,u94
  1df1,1df1,1,v5g 1df2,1df2,1,sm6 1df3,1df3,1,trr 1df4,1df4,1,fqm 1df5,1df5,1,fzb
  1df6,1df6,1,g25 1df7,1df7,1,gcp 1df8,1df8,1,gdg 1df9,1df9,1,ggh 1dfa,1dfa,1,gwt
  1dfb,1dfb,1,gzq 1dfc,1dfc,1,h2g 1dfd,1dfd,1,hfk 1dfe,1dfe,1,hig 1dff,1dff,1,i90
  1dfg,1dfg,1,i9a 1dfh,1dfh,1,j2s 1dfi,1dfi,1,j8o 1dfj,1dfj,1,j9q 1dfk,1dfk,1,jci
  1dfl,1dfl,1,k0f 1dfm,1dfm,1,k4i 1dfn,1dfn,1,k9d 1dfo,1dfo,1,kn9 1dfp,1dfp,1,lmf
  1dfq,1dfq,1,lqy 1dfr,1dfr,1,lya 1dfs,1dfs,1,mem 1dft,1dft,1,mjv 1dfu,1dfu,1,mxu
  1dfv,1dfv,1,ntd 1dfw,1dfw,1,ny6 1dfx,1dfx,1,nyh 1dfy,1dfy,1,nyg 1dfz,1dfz,1,nyo
  1dg0,1dg0,1,nyu 1dg1,1dg1,1,nz1 1dg2,1dg3,1,o0d 1dg4,1dg4,1,o5c 1dg5,1dg5,1,o75
  1dg6,1dg6,1,og0 1dg7,1dg7,1,ovo 1dg8,1dg8,1,ow9 1dg9,1dg9,1,oxt 1dga,1dga,1,p6a
  1dgb,1dgb,1,pad 1dgc,1dgc,1,pnx 1dgd,1dgd,1,prt 1dge,1dge,1,prt 1dgf,1dgf,1,q53
  1dgg,1dgg,1,r2o 1dgh,1dgh,1,r6e 1dgi,1dgi,1,rgh 1dgj,1dgj,1,ri1 1dgk,1dgk,1,rtf
  1dgl,1dgl,1,ruw 1dgm,1dgm,1,sdy 1dgn,1dgn,1,shk 1dgo,1dgo,1,tsz 1dgp,1dgp,1,u0v
  1dgq,1dgq,1,u2j 1dgr,1dgr,1,j1x 1dgs,1dgs,1,36cu 1dgt,1dgt,1,pp4 1dgw,1dgw,1,ffq
  1dgx,1dgx,1,g51 1dgy,1dgy,1,g2w 1dgz,1dgz,1,fpc 1dh0,1dh0,1,g1x 1dh1,1dh1,1,g3k
  1dh2,1dh2,1,gcn 1dh3,1dh3,1,ge2 1dh4,1dh4,1,gwt 1dh5,1dh5,1,gut 1dh6,1dh6,1,gwp
  1dh7,1dh7,1,gyq 1dh8,1dh8,1,hga 1dh9,1dh9,1,hir 1dha,1dha,1,hms 1dhb,1dhb,1,hn8
  1dhc,1dhc,1,huq 1dhd,1dhd,1,i08 1dhe,1dhe,1,iqa 1dhf,1dhf,1,iqh 1dhg,1dhg,1,iuh
  1dhh,1dhh,1,iwd 1dhi,1dhi,1,j4o 1dhj,1dhj,1,j7y 1dhk,1dhk,1,j60 1dhl,1dhl,1,j9q
  1dhm,1dhm,1,j8g 1dhn,1dhn,1,jci 1dho,1dho,1,jec 1dhp,1dhp,1,jpg 1dhq,1dhq,1,jrw
  1dhr,1dhr,1,jte 1dhs,1dhs,1,k0m 1dht,1dht,1,k8k 1dhu,1dhu,1,kd3 1dhv,1dhv,1,kd7
  1dhw,1dhw,1,keu 1dhx,1dhx,1,l89 1dhy,1dhy,1,la2 1dhz,1dhz,1,lkx 1di0,1di0,1,lwb
  1di1,1di1,1,lvv 1di2,1di2,1,lya 1di3,1di3,1,m5a 1di4,1di4,1,mem 1di5,1di5,1,nmv
  1di6,1di6,1,mk5 1di7,1di7,1,mnj 1di8,1di8,1,mqy 1di9,1di9,1,n01 1dia,1dia,1,n46
  1dib,1dib,1,n5n 1dic,1dic,1,nbx 1did,1did,1,nbz 1die,1die,1,ngq 1dif,1dif,1,nh7
  1dig,1dig,1,nhw 1dih,1dih,1,nka 1dii,1dii,1,nk0 1dij,1dij,1,nv0 1dik,1dik,1,o8h
  1dil,1dil,1,og0 1dim,1dim,1,ol7 1din,1din,1,orf 1dio,1dio,1,ovo 1dip,1dip,1,p4u
  1diq,1diq,1,pad 1dir,1dir,1,pxu 1dis,1dis,1,q27 1dit,1dit,1,qrd 1diu,1diu,1,r41
  1div,1div,1,r5y 1diw,1diw,1,r6e 1dix,1dix,1,ren 1diy,1diy,1,rg8 1diz,1diz,1,rez
  1dj0,1dj0,1,rgh 1dj1,1dj1,1,rge 1dj2,1dj2,1,rfx 1dj3,1dj3,1,ri1 1dj4,1dj4,1,rka
  1dj5,1dj5,1,ruw 1dj6,1dj6,1,sag 1dj7,1dj7,1,sj6 1dj8,1dj8,1,srd 1dj9,1dj9,1,sxi
  1dja,1dja,1,tq4 1djb,1djb,1,tsz 1djc,1djc,1,tw6 1djd,1djd,1,tzv 1dje,1dje,1,u0v
  1djf,1djf,1,u17 1djg,1djg,1,u2j 1djh,1djh,1,umq 1dji,1dji,1,vj0 1djj,1djj,1,313e
  1djk,1djk,1,3138 1djl,1djl,1,33dh 1djm,1djm,1,brx 1djn,1djn,1,cns 1djo,1djo,1,cop
  1djp,1djp,1,39e1 1djq,1djq,1,3bgw 1djr,1djr,1,3i6r 1djs,1djs,1,vgj 1djt,1djt,1,vim
  1dls,1dls,1,15u 1dlt,1dlt,1,15c 1dlu,1dlv,1,15f 1dlw,1dly,1,15n 1dlz,1dlz,1,160
  1dm0,1dm0,1,162 1dm1,1dm1,1,17 1dn4,1dn4,1,19t 1dn5,1dn5,1,19t 1dn6,1dn6,1,1a3
  1dn7,1dn7,1,1a3 1dn8,1dn8,1,1a3 1dn9,1dn9,1,1a3 1dna,1dna,1,1a6 1dnb,1dnb,1,1a6
  1dnc,1dnc,1,1a6 1dnd,1dnd,1,1a6 1dne,1dne,1,1a8 1dnf,1dnf,1,1a8 1dng,1dng,1,1a8
  1dnh,1dnh,1,1a8 1dni,1dni,1,1a2 1dnj,1dnj,1,1a2 1dnk,1dnk,1,1a2 1dnl,1dnl,1,1a2
  1dnm,1dnm,1,1a7 1dnn,1dnn,1,1a7 1dno,1dno,1,1a7 1dnp,1dnp,1,1a7 1dnq,1dnq,1,1a1
  1dnr,1dnr,1,1a1 1dns,1dns,1,1a1 1dnt,1dnt,1,1a1 1dnu,1dnu,1,1b8 1dnv,1dnv,1,1b8
  1dnw,1dnw,1,1b8 1dnx,1dnx,1,1b8 1dny,1dny,1,1ba 1dnz,1dnz,1,1ba 1do0,1do0,1,1ba
  1do1,1do1,1,1ba 1do2,1do2,1,1ac 1do3,1do3,1,1ac 1do4,1do4,1,1ac 1do5,1do5,1,1ac
  1do6,1do6,1,1ab 1do7,1do7,1,1ab 1do8,1do8,1,1ab 1do9,1do9,1,1ab 1doa,1doa,1,1ae
  1dob,1dob,1,1ae 1doc,1doc,1,1ae 1dod,1doe,1,1ae 1dof,1dof,1,1af 1dog,1dog,1,1af
  1doh,1doh,1,1af 1doi,1doi,1,1al 1doj,1doj,1,1al 1dok,1dok,1,1ak 1dol,1dol,1,1ak
  1dom,1dom,1,1am 1don,1don,1,1am 1doo,1doo,1,1ag 1dop,1dop,1,1ag 1doq,1doq,1,1aw
  1dor,1dor,1,1aw 1dos,1dos,1,1ap 1dot,1dot,1,1ap 1dou,1dou,1,1bd 1dov,1dov,1,1bd
  1dow,1dow,1,1bd 1dox,1dox,1,1bd 1doy,1doy,1,1bj 1doz,1doz,1,1bj 1dp0,1dp0,1,1bj
  1dp1,1dp1,1,1bj 1dp2,1dp2,1,1bn 1dp3,1dp3,1,1bn 1dp4,1dp4,1,1bn 1dp5,1dp5,1,1bn
  1dp6,1dp6,1,1bl 1dp7,1dp7,1,1bl 1dp8,1dp8,1,1bl 1dp9,1dp9,1,1bl 1dpa,1dpa,1,1bu
  1dpb,1dpc,1,1bu 1dpd,1dpd,1,1bv 1dpe,1dpe,1,1bv 1dpf,1dpf,1,1bv 1dpg,1dpg,1,1c0
  1dph,1dpi,1,1c0 1dpj,1dpj,1,1c1 1dpk,1dpk,1,1c1 1dpl,1dpl,1,1c1 1dpm,1dpm,1,1by
  1dpn,1dpn,1,1by 1dpo,1dpo,1,1by 1dpp,1dpp,1,1by 1dpq,1dpq,1,1ci 1dpr,1dps,1,1ci
  1dpt,1dpt,1,1cj 1dqr,1dqr,1,1bh 1dqs,1dqs,1,1bh 1dqt,1dqt,1,1bh 1dqu,1dqu,1,1bh
  1dqv,1dqv,1,1c7 1dqw,1dqw,1,1c7 1dqx,1dqx,1,1c6 1dqy,1dqy,1,1c6 1dqz,1dqz,1,1c8
  1dr0,1dr0,1,1c8 1dr2,1dr2,1,1cb 1dr3,1dr3,1,1cb 1dr4,1dr4,1,1c5 1dr5,1dr5,1,1c5
  1dr6,1dr6,1,1c9 1dr7,1dr7,1,1c9 1dr8,1dr8,1,1cg 1dr9,1dr9,1,1cg 1dra,1dra,1,1cg
  1drb,1drb,1,1cg 1drc,1drc,1,18p 1drd,1drd,1,18p 1drw,1drw,1,1cc 1drx,1drx,1,1cc
  1dry,1dry,1,1cc 1drz,1drz,1,1cc 1e6o,1e6o,1,18 1e6p,1e6p,1,9hd 1e6r,1e6s,1,1m 1e6t,1e6t,1,x
  1e6u,1e6u,1,1r 1e6v,1e6w,1,9hy 1e7l,1e7l,1,6c4 1e7m,1e7m,1,6c3 1e7n,1e7n,1,2n 1e7o,1e7o,1,2n
  1e7p,1e7q,1,14 1e7r,1e7r,1,3f 1e7s,1e7s,1,3h 1e7t,1e7u,1,9hw 1e7v,1e7w,1,9hs 1e7x,1e7y,1,9hm
  1e7z,1e80,1,9hk 1e81,1e84,1,9ho 1e87,1e87,1,2j 1e88,1e88,1,2l 1e8d,1e8d,1,2n 1e8e,1e8e,1,2n
  1e8f,1e8f,1,2n 1e8g,1e8g,1,18 1e8h,1e8h,1,9hd 1e8k,1e8k,1,1n 1e8l,1e8l,1,1m 1e8m,1e8m,1,1r
  1e8n,1e8n,1,x 1e8o,1e8o,1,6c4 1e8p,1e8q,1,14 1e8r,1e8r,1,3f 1e8s,1e8s,1,3h 1e8t,1e8u,1,9hw
  1e8v,1e8v,1,z 1e8w,1e8w,1,12 1e8x,1e8y,1,16 1e8z,1e8z,1,19 1e90,1e90,1,1o 1e91,1e91,1,1q
  1e92,1e92,1,1p 1e94,1e94,1,2k 1e95,1e96,1,10 1e97,1e97,1,1s 1e9s,1e9t,1,17l 1e9u,1e9v,1,17m
  1e9w,1e9x,1,17n 1e9y,1e9z,1,17o 1ea0,1ea1,1,17p 1ea2,1ea2,1,17q 1ea3,1ea3,1,17q
  1ea4,1ea5,1,17q 1ea6,1ea7,1,17r 1ea8,1ea8,1,17s 1ea9,1ea9,1,17s 1eaa,1eab,1,17s
  1eac,1ead,1,17t 1eae,1eae,1,17u 1eaf,1eaf,1,17u 1eag,1eah,1,17u 1eai,1eai,1,17v
  1eaj,1eaj,1,17v 1eak,1eal,1,17v 1eam,1eam,1,17w 1ean,1ean,1,17w 1eao,1eap,1,17w
  1eaq,1eaq,1,17x 1ear,1ear,1,17x 1eas,1eat,1,17x 1eau,1eau,1,17y 1eav,1eav,1,17y
  1eaw,1eax,1,17y 1eay,1eaz,1,17z 1eb0,1eb1,1,180 1eb2,1eb3,1,181 1eb4,1eb5,1,182
  1eb6,1eb6,1,183 1eb7,1eb7,1,183 1eb8,1eb9,1,183 1eba,1eba,1,184 1ebb,1ebb,1,184
  1ebc,1ebd,1,184 1ebe,1ebe,1,185 1ebf,1ebf,1,185 1ebg,1ebh,1,185 1ebi,1ebi,1,186
  1ebj,1ebj,1,186 1ebk,1ebl,1,186 1ebm,1ebm,1,187 1ebn,1ebn,1,187 1ebo,1ebp,1,187
  1ebq,1ebq,1,188 1ebr,1ebr,1,188 1ebs,1ebt,1,188 1ebu,1ebu,1,189 1ebv,1ebv,1,189
  1ebw,1ebx,1,189 1eby,1eby,1,18a 1ebz,1ebz,1,18a 1ec0,1ec0,1,18a 1ec1,1ec1,1,18h
  1ec2,1ec2,1,18h 1ec3,1ec3,1,18h 1ec4,1ec5,1,18h 1ec6,1ec6,1,18i 1ec7,1ec7,1,18i
  1ec8,1ec9,1,18i 1eca,1eca,1,18j 1ecb,1ecb,1,18j 1ecc,1ecd,1,18j 1ece,1ece,1,18k
  1ecf,1ecf,1,18k 1ecg,1ech,1,18k 1eci,1eci,1,18l 1ecj,1ecj,1,18l 1eck,1ecl,1,18l
  1ecm,1ecm,1,18m 1ecn,1ecn,1,18m 1eco,1ecp,1,18m 1ecq,1ecq,1,18n 1ecr,1ecr,1,18n
  1ecs,1ect,1,18n 1ecu,1ecv,1,18o 1ecw,1ecx,1,18p 1ecy,1ecy,1,18q 1ecz,1ecz,1,18q
  1ed0,1ed0,1,18q 1edd,1ee8,1,x 1ee9,1eey,1,2p 1eez,1efy,1,2j 1efz,1eg0,1,879 1eg1,1eg1,1,1a
  1eg2,1eg3,1,9ho 1eg4,1eg4,1,9hd 1eg5,1eg5,1,9ob 1eg6,1eg6,1,9o2 1eg7,1eg7,1,9lt
  1eg8,1eg8,1,9lv 1eg9,1eg9,1,9lx 1ega,1ega,1,9lz 1egb,1egb,1,9m1 1egc,1egc,1,9nn
  1egd,1egd,1,9np 1ege,1ege,1,9nr 1egf,1egf,1,9mr 1egg,1egg,1,9oc 1egh,1egh,1,9lu
  1egi,1egi,1,9lw 1egj,1egj,1,9ly 1egk,1egk,1,9m0 1egl,1egm,1,9m2 1egn,1egn,1,9m5
  1ego,1ego,1,9m7 1egp,1egp,1,9m9 1egq,1egq,1,9mb 1egr,1egr,1,9md 1egs,1egs,1,9mf
  1egt,1egt,1,9mh 1egu,1egu,1,9mj 1egv,1egv,1,9ml 1egw,1egw,1,9mn 1egx,1egx,1,9mp
  1egy,1egy,1,9ms 1egz,1egz,1,9mu 1eh0,1eh0,1,9mw 1eh1,1eh6,1,9my 1eh7,1eh7,1,9n6
  1eh8,1eh8,1,9n9 1eh9,1eh9,1,9nc 1eha,1eha,1,9nf 1ehb,1ehf,1,9ni 1ehg,1ehg,1,9no
  1ehh,1ehh,1,9nq 1ehi,1ehn,1,9ns 1eho,1eho,1,9nz 1ehp,1ehp,1,9o3 1ehq,1ehr,1,9ll
  1eht,1ehu,1,3cw 1ehv,1ehv,1,3hm 1ehw,1ehw,1,3cy 1ehx,1ehy,1,3ho 1ehz,1ei1,1,3cz
  1ei2,1ei7,1,3hs 1ei8,1ei8,1,3dm 1ei9,1eib,1,3d2 1eic,1eic,1,3dt 1eid,1eim,1,3d5
  1eiq,1eiv,1,3fl 1eiy,1ej3,1,3fr 1ej6,1ejb,1,3fx 1eje,1ejg,1,3g3 1ejk,1ejl,1,4i
  1ejm,1ejm,1,4s 1ejo,1ejo,1,4m 1ejp,1ejp,1,4l 1ejq,1ejq,1,6g9 1ejs,1ejs,1,7b6 1ejt,1ejw,1,6mo
  1ejx,1ejx,1,7fk 1ejy,1ejy,1,7gr 1fcw,1fdz,1,1fe0 1fhs,1fir,1,1fiw 1fn4,1fne,1,1fo7
  1fng,1fnu,1,1foj 1fnw,1fo2,1,1foz 1fo4,1fo5,1,1fp7 1g1t,1g1u,1,k0 1g1v,1g1v,1,6e
  1g1w,1g1w,1,ih 1g1x,1g1x,1,gj 1g1z,1g1z,1,ir 1g20,1g20,1,xuu 1g21,1g21,1,it 1g22,1g22,1,is
  1g23,1g24,1,gm 1g25,1g25,1,5u9 1g26,1g26,1,go 1g27,1g27,1,gu 1g28,1g28,1,ix 1g29,1g29,1,h0
  1g2a,1g2a,1,gy 1g2b,1g2b,1,gw 1g2c,1g2c,1,ij 1g2d,1g2d,1,87 1g2e,1g2e,1,ik 1g2f,1g2f,1,h3
  1g2g,1g2g,1,hw 1g2h,1g2i,1,iy 1g2j,1g2j,1,h8 1g2k,1g2k,1,2mmc 1g2l,1g2l,1,x3i 1g2m,1g2m,1,ha
  1g2n,1g2n,1,2mmd 1g2o,1g2o,1,i6 1g2p,1g2p,1,2mme 1g2q,1g2q,1,6w 1g2r,1g2s,1,hi
  1g2t,1g2t,1,35 1g2u,1g2u,1,hm 1g2v,1g2v,1,2mmg 1g2w,1g2x,1,hp 1g2y,1g2y,1,hs 1g2z,1g2z,1,iw
  1g30,1g30,1,iu 1g31,1g31,1,xuv 1g32,1g32,1,iv 1g33,1g33,1,i0 1g34,1g34,1,8s1 1g36,1g36,1,i7
  1g37,1g38,1,ip 1g39,1g39,1,ig 1g3a,1g3c,1,cg 1g3d,1g3d,1,2mmi 1g3e,1g3e,1,2mn2
  1h1c,1h2q,1,1h34 1jfk,1jgf,1,1jgg 20cg,20db,1,20dc 2kg0,2kgp,1,2p 2kgq,2khf,1,2p
  2khg,2ki5,1,2p 2ki6,2kic,1,2p 2kie,2kiv,1,2x 2kiw,2kjl,1,2p 2kjm,2kkb,1,2p 2kkc,2kke,2,2p
  2kkf,2kkf,1,2s 2kki,2kki,1,2v 2kkl,2kkm,1,2y 2kkp,2kks,1,32 2kku,2kl1,1,37 2kl2,2kl5,1,2p
  2kl7,2kl9,2,2u 2kla,2klf,1,2x 2klh,2klr,1,34 2kls,2kmh,1,2p 2kmi,2kn7,1,2p 2kn8,2kn9,1,2p
  2knb,2kne,1,2s 2knh,2kno,1,2y 2knq,2knw,1,37 2kny,2kon,1,2p 2koo,2kop,1,2p 2kor,2kou,1,2s
  2kow,2kp0,1,2x 2kp2,2kp2,1,33 2kp6,2kpc,1,37 2kpe,2kq3,1,2p 2kq4,2kqt,1,2p 2kqu,2krj,1,2p
  2krk,2ks9,1,2p 2ksa,2ksz,1,2p 2kt0,2ktp,1,2p 2ktq,2kuf,1,2p 2kug,2kv5,1,2p 2kv6,2kvv,1,2p
  2kvw,2kwl,1,2p 2kwm,2kxb,1,2p 2kxc,2ky1,1,2p 2ky2,2kyr,1,2p 2kys,2kys,1,8h 2kyt,2kyt,1,fr
  2kyw,2kzc,1,q9 2kzd,2kzd,1,qg 2kze,2kzk,1,qr 2kzl,2kzl,1,6pz 2kzm,2l02,1,q9 2l03,2l03,1,qr
  2l04,2l0a,1,qr 2l0b,2l0b,1,6pu 2l0c,2l0c,1,qd 2l0d,2l0d,1,qg 2l0e,2l0e,1,qi 2l0f,2l0f,1,qu
  2l0g,2l0g,1,qp 2l0h,2l0h,1,qo 2l0i,2l0y,1,q9 2l0z,2l0z,1,qg 2l10,2l16,1,qr 2l17,2l17,1,6pz
  2l18,2l1o,1,q9 2l1p,2l1p,1,qr 2l1q,2l1w,1,qr 2l1x,2l1x,1,6pu 2l1y,2l1y,1,qd 2l1z,2l1z,1,qg
  2l20,2l20,1,qi 2l21,2l21,1,qu 2l22,2l22,1,qp 2l23,2l23,1,qo 2l24,2l2k,1,q9 2l2l,2l2l,1,qg
  2l2m,2l2s,1,qr 2l2t,2l2t,1,6pz 2l2u,2l3a,1,q9 2l3b,2l3b,1,qr 2l3c,2l3i,1,qr 2l3j,2l3j,1,6pu
  2l3k,2l3k,1,qd 2l3l,2l3l,1,qg 2l3m,2l3m,1,qi 2l3n,2l3n,1,qu 2l3o,2l3o,1,qp 2l3p,2l3p,1,qo
  2l3q,2l46,1,q9 2l47,2l47,1,qg 2l48,2l4e,1,qr 2l4f,2l4f,1,6pz 2l4g,2l4w,1,q9 2l4x,2l4x,1,qr
  2l4y,2l54,1,qr 2l55,2l55,1,6pu 2l56,2l56,1,qd 2l57,2l57,1,qg 2l58,2l58,1,qi 2l59,2l59,1,qu
  2l5a,2l5a,1,qp 2l5b,2l5b,1,qo 2l5c,2l5s,1,q9 2l5t,2l5t,1,qg 2l5u,2l60,1,qr 2l61,2l61,1,6pz
  2l62,2l6i,1,q9 2l6j,2l6j,1,qr 2l6k,2l6q,1,qr 2l6r,2l6r,1,6pu 2l6s,2l6s,1,qd 2l6t,2l6t,1,qg
  2l6u,2l6u,1,qi 2l6v,2l6v,1,qu 2l6w,2l6w,1,qp 2l6x,2l6x,1,qo 2l6y,2l6y,1,rh 2l6z,2l6z,1,rh
  2l72,2l7b,1,1c 2l7c,2l7l,1,1c 2l7m,2l7v,1,1c 2l7w,2l85,1,1c 2l86,2l8f,1,1c 2muo,2muw,1,ts
  2mux,2muz,1,u2 2mv0,2mva,1,u6 2mvb,2mvb,1,uj 2mvc,2mvd,1,ul 2mve,2mve,1,ww9 2mvf,2mvf,1,yh
  2mvg,2mvg,1,uu 2mvh,2mvh,1,uw 2mvi,2mvi,1,yx 2mvj,2mvj,1,xb 2mvk,2mvk,1,y7 2mvl,2mvt,1,ts
  2mvu,2mvv,1,u2 2mvw,2mvx,1,u6 2mvy,2mvy,1,u9 2mvz,2mw4,1,ub 2mw5,2mw6,1,ui 2mw7,2mw7,1,wh
  2mw8,2mw8,1,uu 2mw9,2mw9,1,ut 2mwa,2mwa,1,v3 2mwb,2mwb,1,x7 2mwc,2mwc,1,wup 2mwd,2mwd,1,xd
  2olc,2om9,1,2oma 2pkw,2pkx,1,17r 2pky,2pky,1,17w 2pkz,2pkz,1,17z 2pl1,2pl1,1,18o
  2pl2,2pl2,1,182 2pl3,2pl3,1,17x 2pl4,2pl4,1,187 2pl5,2pl5,1,18q 2pl6,2pl9,1,18j
  2pla,2pla,1,183 2plb,2plb,1,189 2plc,2plc,1,18h 2pld,2pld,1,185 2ple,2ple,1,18i
  2plf,2plf,1,181 2plg,2plg,1,184 2plh,2pli,1,17u 2plj,2plj,1,17y 2plk,2plk,1,180
  2pll,2pll,1,186 2plm,2plm,1,188 2pln,2pln,1,18a 2plo,2plo,1,19q 2plp,2plp,1,1bu
  2plq,2plq,1,1b5 2plr,2plr,1,19r 2plt,2plt,1,17s 2plu,2plu,1,17w 2plw,2plw,1,18n
  2plz,2plz,1,17x 2pm1,2pm1,1,18q 2pm2,2pm5,1,18j 2pm6,2pm6,1,183 2pm7,2pm7,1,189
  2pm8,2pm8,1,18h 2pm9,2pm9,1,185 2pma,2pma,1,18i 2pmc,2pmc,1,184 2pmd,2pme,1,17u
  2pmf,2pmf,1,17y 2pmh,2pmh,1,186 2pmj,2pmj,1,18a 2pmq,2pmq,1,17w 2pmv,2pmv,1,17x
  2pmx,2pmx,1,18q 2pmz,2pn1,2,18k 2pn2,2pn2,1,183 2pn3,2pn3,1,189 2pn5,2pn5,1,185
  2pn6,2pn6,1,18i 2pn8,2pn8,1,184 2pnb,2pnb,1,17y 2pnd,2pnd,1,186 2pnf,2pnf,1,18a
  2pnh,2pnh,1,1bu 2pnj,2pnj,1,19r 2pnl,2pnl,1,17s 2pnm,2pnm,1,17w 2pno,2pno,1,18n
  2pnr,2pnr,1,17x 2pns,2pns,1,187 2pnt,2pnt,1,18q 2pnu,2pnw,2,18j 2pnx,2pnx,1,18m
  2pny,2pny,1,183 2pnz,2pnz,1,189 2po0,2po0,1,18h 2po1,2po1,1,185 2po2,2po2,1,18i
  2po4,2po4,1,184 2po5,2po6,1,17u 2po7,2po7,1,17y 2po9,2po9,1,186 2poa,2poa,1,188
  2pob,2pob,1,18a 2poc,2poc,1,19q 2poe,2poe,1,1b5 2pog,2poh,1,17r 2poi,2poi,1,17w
  2poj,2poj,1,17z 2pok,2pol,1,18n 2pom,2pom,1,182 2pon,2pon,1,17x 2poo,2poo,1,187
  2pop,2pop,1,18q 2por,2pot,1,18k 2pou,2pou,1,183 2pov,2pov,1,189 2pow,2pow,1,18h
  2pox,2pox,1,185 2poy,2poy,1,18i 2poz,2poz,1,181 2pp0,2pp0,1,184 2pp1,2pp2,1,17u
  2pp3,2pp3,1,17y 2pp4,2pp4,1,180 2pp5,2pp5,1,186 2pp6,2pp6,1,188 2pp7,2pp7,1,18a
  2ppd,2ppd,1,17s 2ppe,2ppe,1,17w 2ppf,2ppf,1,17z 2pph,2pph,1,18o 2ppi,2ppi,1,182
  2ppj,2ppj,1,17x 2ppk,2ppk,1,187 2ppl,2ppl,1,18q 2ppn,2ppp,1,18k 2ppq,2ppq,1,183
  2ppr,2ppr,1,189 2pps,2pps,1,18h 2ppt,2ppt,1,185 2ppu,2ppu,1,18i 2ppv,2ppv,1,181
  2ppw,2ppw,1,184 2ppx,2ppy,1,17u 2ppz,2ppz,1,17y 2pq0,2pq0,1,180 2pq1,2pq1,1,186
  2pq2,2pq2,1,188 2pq3,2pq3,1,18a 2q7f,2q7f,1,2r 2q7g,2q7g,1,36 2q7k,2q89,1,2p 2qde,2qde,1,9md
  2qds,2qds,1,jez 2qdt,2qdt,1,i1j 2qdu,2qdu,1,gjw 2qdv,2qdv,1,9mv 2qdw,2qdw,1,fik
  2qdx,2qdx,1,hlm 2qdy,2qdy,1,r8j 2qdz,2qdz,1,hm1 2qe0,2qe0,1,fj8 2qe1,2qe1,1,k68
  2qe2,2qe2,1,mch 2qe3,2qe3,1,k2h 2qe4,2qe4,1,g99 2qe5,2qe5,1,ivg 2qe6,2qe6,1,g3x
  2qe7,2qe7,1,k34 2qe8,2qe8,1,g7x 2qe9,2qe9,1,oqq 2qea,2qea,1,n4v 2qeb,2qeb,1,rs9
  2qec,2qec,1,hkg 2qed,2qed,1,gmx 2qee,2qee,1,lxw 2qef,2qef,1,jh1 2qeg,2qeg,1,jmd
  2qeh,2qeh,1,feo 2qei,2qei,1,fex 2qej,2qej,1,si2 2qek,2qek,1,ijq 2qel,2qel,1,ffx
  2qem,2qem,1,gkz 2qen,2qen,1,jk7 2qeo,2qeo,1,rxs 2qep,2qep,1,jf7 2qeq,2qeq,1,o01
  2qer,2qer,1,o6y 2qes,2qes,1,glk 2qet,2qet,1,lts 2qeu,2qeu,1,kcp 2qev,2qev,1,kco
  2qew,2qew,1,n5f 2qex,2qex,1,gaa 2qey,2qey,1,gxi 2qez,2qez,1,sp9 2qfk,2qfk,1,ivr
  2qfl,2qfl,1,gkv 2sc0,2sc9,1,1c 464g,464g,1,fgd 464h,464h,1,fg8 464i,464i,1,fgh
  464j,464j,1,2tcy 464k,464k,1,fog 464l,464l,1,fqm 464m,464m,1,fqz 464n,464n,1,fsy
  464o,464o,1,fwa 464p,464p,1,fx5 464q,464q,1,fzb 464r,464r,1,fyn 464s,464s,1,ae6
  464t,464t,1,2ud6 464u,464u,1,g25 464v,464v,1,g2c 464w,464w,1,g2s 464x,464x,1,g3b
  464y,464y,1,2u58 464z,464z,1,aex 4650,4650,1,g2v 4651,4651,1,g3x 4652,4652,1,2u6j
  4653,4653,1,g47 4654,4654,1,g4k 4655,4655,1,fkc 4656,4656,1,g4s 4657,4657,1,g51
  4658,4658,1,3ly7 4659,4659,1,g6t 465a,465a,1,g77 465b,465b,1,afz 465c,465c,1,g8r
  465d,465d,1,g92 465e,465e,1,gaa 465f,465f,1,gaf 465g,465g,1,ahh 465h,465h,1,gcn
  465i,465i,1,gcp 465j,465j,1,gdg 465k,465k,1,ge2 465l,465m,1,ged 465n,465n,1,gev
  465o,465o,1,gg9 465p,465p,1,ggh 465q,465q,1,ggq 465r,465r,1,ghf 465s,465s,1,ghp
  465t,465t,1,ghr 465u,465u,1,ghr 465v,465v,1,ghr 465w,465w,1,2v58 465x,465x,1,m7k
  465y,465y,1,gju 465z,465z,1,gkf 4660,4660,1,2vdv 4661,4661,1,gkr 4662,4662,1,gkx
  4663,4663,1,gli 4664,4664,1,gpq 4665,4665,1,gmw 4666,4666,1,gnc 4667,4667,1,go8
  4668,4668,1,gpu 4669,4669,1,gs6 466a,466a,1,gsw 466b,466b,1,gur 466c,466c,1,gv7
  466d,466d,1,gw4 466e,466e,1,gw4 466f,466f,1,gwp 466g,466g,1,gx7 466h,466h,1,gxf
  466i,466i,1,gxu 466j,466j,1,h7a 466k,466k,1,gzq 466l,466l,1,h7b 466m,466m,1,h1t
  466n,466n,1,h2s 466o,466o,1,g7b 466p,466p,1,hke 466q,466q,1,hce 466r,466r,1,hdg
  466s,466s,1,he5 466t,466t,1,haj 466u,466u,1,hf6 466v,466v,1,hf5 466w,466w,1,hik
  466x,466x,1,2x9g 466y,466y,1,hki 466z,466z,1,hkn 4670,4670,1,hl2 4671,4671,1,hlm
  4672,4672,1,hlu 4673,4673,1,hnm 4674,4674,1,2xm0 4675,4675,1,2xnu 4676,4676,1,hrg
  4677,4677,1,hsr 4678,4678,1,ht3 4679,4679,1,hqw 467a,467a,1,huu 467b,467b,1,aum
  467d,467d,1,hzc 467e,467e,1,i0u 467f,467f,1,i0u 467g,467g,1,2y88 467h,467h,1,i4j
  467i,467i,1,i54 467j,467j,1,i5j 467k,467k,1,i5v 467l,467l,1,2yhk 467m,467m,1,i67
  467n,467n,1,i6e 467p,467p,1,i76 467q,467q,1,ayp 467r,467r,1,i8w 467s,467s,1,i9a
  467t,467t,1,ibk 467u,467u,1,ia5 467v,467v,1,2z1g 467w,467w,1,if7 467x,467x,1,2z1i
  467y,467y,1,ige 467z,467z,1,igb 4680,4680,1,igs 4681,4682,1,ijl 4683,4683,1,b3j
  4684,4684,1,ikd 4685,4685,1,ilk 4686,4686,1,im5 4687,4687,1,ind 4688,4688,1,b4y
  4689,4689,1,2zr7 468a,468a,1,b5o 468b,468b,1,ipc 468c,468c,1,ipf 468d,468d,1,ipi
  468e,468e,1,iq2 468f,468f,1,3pg2 468g,468g,1,iri 468h,468h,1,3035 468i,468i,1,3035
  468j,468j,1,poh 468k,468k,1,isi 468l,468l,1,isi 468m,468m,1,b7r 468n,468n,1,335k
  468o,468o,1,3cgq 468p,468p,1,iua 468q,468q,1,iuj 468r,468r,1,b8j 468s,468s,1,ivu
  468t,468t,1,ix9 468u,468u,1,ixj 468v,468v,1,iyh 468w,468w,1,j29 468x,468x,1,bay
  468y,468y,1,ba4 468z,468z,1,j2s 4690,4690,1,30t0 4691,4691,1,j47 4692,4692,1,j7s
  4693,4693,1,j7w 4694,4694,1,j7y 4695,4695,1,j7w 4696,4696,1,j96 4697,4697,1,j9q
  4698,4698,1,jaq 4699,4699,1,jac 469a,469a,1,jan 469b,469b,1,jby 469c,469c,1,jci
  469d,469d,1,jcm 469e,469e,1,jdc 469f,469f,1,jdn 469g,469g,1,jfh 469h,469h,1,jht
  469i,469i,1,jis 469j,469j,1,jm8 469k,469k,1,31n0 469l,469l,1,jlp 469m,469m,1,jjw
  469n,469n,1,jmw 469o,469o,1,jnn 469p,469p,1,jqc 469q,469q,1,31td 469r,469r,1,js2
  469s,469s,1,jph 469t,469t,1,jop 469u,469u,1,bhq 469v,469v,1,ju1 469w,469w,1,jum
  469x,469x,1,jvh 469y,469y,1,juf 469z,469z,1,bjg 46a0,46a0,1,k0f 46a1,46a1,1,k18
  46a2,46a2,1,32mi 46a3,46a3,1,k4j 46a4,46a4,1,kc8 46a5,46a5,1,k7d 46a6,46a6,1,bo9
  46a7,46a7,1,k9d 46a8,46a8,1,bns 46a9,46a9,1,bms 46aa,46aa,1,g42 46ab,46ab,1,g45
  46ac,46ac,1,kcg 46ad,46ad,1,k9o 46ae,46ae,1,pf1 46af,46af,1,deh 46ag,46ag,1,kd3
  46ah,46ah,1,kd7 46ai,46ai,1,kdd 46aj,46aj,1,kf2 46ak,46ak,1,ker 46al,46al,1,33cz
  46am,46am,1,bpl 46an,46an,1,kje 46ao,46ao,1,kg5 46ap,46ap,1,klu 46aq,46aq,1,kn9
  46ar,46ar,1,33hp 46as,46as,1,kni 46at,46at,1,kkf 46au,46au,1,kr8 46av,46av,1,brx
  46aw,46aw,1,ksi 46ax,46ax,1,kv7 46ay,46ay,1,kx6 46az,46az,1,l2g 46b0,46b0,1,33xf
  46b1,46b1,1,l3v 46b2,46b2,1,bvc 46b3,46b3,1,l5t 46b4,46b4,1,34br 46b5,46b5,1,l78
  46b6,46b6,1,bwu 46b7,46b7,1,l82 46b8,46b8,1,l9b 46b9,46ba,1,la2 46bb,46bb,1,34p9
  46bc,46bc,1,2yvf 46bd,46bd,1,34sa 46be,46be,1,le6 46bf,46bf,1,354s 46bg,46bg,1,lhb
  46bh,46bh,1,lhp 46bi,46bi,1,lev 46bj,46bj,1,ljq 46bk,46bk,1,lku 46bl,46bl,1,lmf
  46bm,46bm,1,lkx 46bn,46bn,1,lm1 46bo,46bo,1,lmg 46bp,46bp,1,lmt 46bq,46bq,1,357i
  46br,46br,1,lkk 46bs,46bs,1,lrj 46bt,46bt,1,lta 46bu,46bu,1,c37 46bv,46bv,1,lvv
  46bw,46bw,1,lvr 46bx,46bx,1,35jl 46by,46by,1,lq1 46bz,46bz,1,m0e 46c0,46c0,1,35ni
  46c1,46c1,1,35ou 46c2,46c2,1,m2u 46c3,46c3,1,m61 46c4,46c4,1,m5a 46c5,46c5,1,m57
  46c6,46c6,1,c5y 46c7,46c7,1,m6i 46c8,46c8,1,m7x 46c9,46c9,1,m7r 46ca,46ca,1,m99
  46cb,46cb,1,2u5h 46cc,46cc,1,mdh 46cd,46cd,1,368z 46ce,46ce,1,mfw 46cg,46cg,1,mjs
  46ch,46ch,1,mk5 46ci,46ci,1,mkw 46cj,46cj,1,36yw 46ck,46ck,1,mm8 46cl,46cl,1,mmt
  46cm,46cm,1,3779 46cn,46cn,1,37dg 46co,46co,1,mt6 46cp,46cp,1,mtn 46cq,46cq,1,cdo
  46cr,46cr,1,mud 46cs,46cs,1,ce0 46ct,46ct,1,ce0 46cu,46cu,1,myv 46cv,46cv,1,mzg
  46cw,46cw,1,n01 46cx,46cx,1,n0l 46cy,46cy,1,n2i 46cz,46cz,1,cgr 46d0,46d0,1,n50
  46d1,46d1,1,386u 46d2,46d2,1,n5q 46d3,46d3,1,389e 46d4,46d4,1,n74 46d5,46d5,1,2zrz
  46d6,46d6,1,nbk 46d7,46d7,1,38v5 46d8,46d8,1,38vs 46d9,46d9,1,38zo 46da,46da,1,cn0
  46db,46db,1,cnc 46dc,46dc,1,nhw 46dd,46dd,1,394j 46de,46de,1,394i 46df,46df,1,395l
  46dg,46dg,1,396b 46dh,46di,1,nj2 46dj,46dj,1,nj3 46dk,46dk,1,nka 46dl,46dl,1,cop
  46dm,46dm,1,nm3 46dn,46dn,1,cp2 46do,46do,1,cra 46dp,46dp,1,39r1 46dq,46dq,1,nri
  46dr,46dr,1,nt8 46ds,46ds,1,nv0 46dt,46dt,1,ctf 46du,46du,1,3a5i 46dv,46dv,1,nyu
  46dw,46dw,1,3a8q 46dx,46dx,1,3a9x 46dy,46dy,1,o0f 46dz,46dz,1,o2z 46e0,46e0,1,cvj
  46e1,46e1,1,o5c 46e2,46e2,1,o5m 46e3,46e3,1,o5r 46e4,46e4,1,3at8 46e5,46e5,1,3b1j
  46e6,46e6,1,3b1j 46e8,46e8,1,d1e 46e9,46e9,1,3b8r 46ea,46ea,1,og6 46eb,46eb,1,og9
  46ec,46ec,1,d2f 46ed,46ed,1,3beo 46ee,46ee,1,onm 46ef,46ef,1,d5s 46eg,46eg,1,oo8
  46eh,46eh,1,oo3 46ei,46ei,1,oow 46ej,46ej,1,3c06 46ek,46ek,1,orn 46el,46el,1,d8h
  46em,46em,1,ouf 46en,46en,1,ow2 46eo,46eo,1,oxx 46ep,46ep,1,d9w 46eq,46eq,1,3ciw
  46er,46er,1,3cjr 46es,46es,1,dax 46et,46et,1,3cnt 46eu,46eu,1,p6i 46ev,46ev,1,3cqm
  46ew,46ew,1,p79 46ex,46ex,1,pa2 46ey,46ey,1,pad 46ez,46ez,1,3d22 46f0,46f0,1,3d43
  46f1,46f1,1,pcw 46f2,46f2,1,3d7s 46f3,46f3,1,pdc 46f4,46f4,1,33a7 46f5,46f5,1,ded
  46f6,46f6,1,pf6 46f7,46f7,1,phf 46f8,46f8,1,dfv 46f9,46f9,1,pj2 46fa,46fa,1,hx1
  46fb,46fb,1,3dlz 46fc,46fc,1,3dmd 46fd,46fd,1,33bn 46fe,46fe,1,33bw 46ff,46ff,1,poh
  46fg,46fg,1,pok 46fh,46fh,1,sda 46fi,46fi,1,dij 46fj,46fj,1,psh 46fk,46fk,1,psb
  46fl,46fl,1,pst 46fm,46fm,1,gc3 46fn,46fn,1,ptd 46fo,46fo,1,ptf 46fp,46fp,1,ptp
  46fq,46fq,1,puu 46fr,46fr,1,3ebg 46fs,46fs,1,put 46ft,46ft,1,pwd 46fu,46fu,1,pyb
  46fv,46fv,1,q0d 46fw,46fw,1,pwj 46fx,46fx,1,q0t 46fy,46fy,1,q1z 46fz,46fz,1,q53
  46g0,46g0,1,pxv 46g1,46g1,1,q16 46g2,46g2,1,q18 46g3,46g3,1,q1o 46g4,46g4,1,3eie
  46g5,46g5,1,3eqz 46g6,46g6,1,3emt 46g7,46g7,1,dnv 46g8,46g8,1,q9d 46g9,46g9,1,q9f
  46ga,46ga,1,qae 46gb,46gb,1,3g0a 46gc,46gc,1,qck 46gd,46gd,1,3f3g 46ge,46ge,1,dp9
  46gf,46gf,1,dpd 46gg,46gg,1,3f75 46gh,46gh,1,3ff6 46gi,46gi,1,dpn 46gj,46gj,1,qj4
  46gk,46gk,1,qjg 46gl,46gl,1,qjr 46gm,46gm,1,qjt 46gn,46gn,1,qll 46go,46go,1,qko
  46gp,46gp,1,qoe 46gq,46gq,1,qn6 46gr,46gr,1,qrd 46gs,46gs,1,qp4 46gt,46gt,1,qqz
  46gu,46gu,1,qrq 46gw,46gw,1,qu9 46gx,46gx,1,qv5 46gy,46gy,1,dtl 46gz,46gz,1,qxs
  46h0,46h0,1,qxv 46h1,46h1,1,3giv 46h2,46h2,1,r13 46h3,46h3,1,r1a 46h4,46h4,1,dv9
  46h5,46h5,1,r22 46h6,46h6,1,aez 46h7,46h7,1,3gz2 46h8,46h8,1,3h46 46h9,46h9,1,dz2
  46ha,46ha,1,dzb 46hb,46hb,1,rds 46hc,46hc,1,rfx 46hd,46hd,1,rka 46he,46he,1,rpx
  46hf,46hf,1,3hrc 46hg,46hg,1,rsb 46hh,46hh,1,rsx 46hi,46hi,1,rvf 46hj,46hj,1,rxz
  46hk,46hk,1,3i9b 46hl,46hl,1,2upw 46hm,46hm,1,s0b 46hn,46hn,1,rzw 46ho,46ho,1,s1c
  46hp,46hp,1,2uvy 46hq,46hq,1,s7o 46hr,46hr,1,sag 46hs,46hs,1,3jki 46ht,46ht,1,3jl9
  46hu,46hu,1,sk4 46hv,46hv,1,smp 46hw,46hw,1,snl 46hx,46hx,1,3ju6 46hy,46hy,1,snv
  46hz,46hz,1,svs 46i0,46i1,1,t07 46i2,46i2,1,sxo 46i3,46i3,1,t89 46i4,46i4,1,t91
  46i5,46i5,1,3ksa 46i6,46i6,1,tjf 46i7,46i7,1,ej9 46i8,46i8,1,tkn 46i9,46i9,1,3l2v
  46ia,46ia,1,eli 46ib,46ib,1,ts3 46ic,46ic,1,iia 46id,46id,1,tur 46ie,46ie,1,3ltx
  46if,46if,1,3lzu 46ig,46ig,1,epa 46ih,46ih,1,epi 46ii,46ii,1,u00 46ij,46ij,1,3mdm
  46ik,46ik,1,er6 46il,46il,1,3mhi 46im,46im,1,u17 46in,46in,1,u17 46io,46io,1,u21
  46ip,46ip,1,3mpi 46iq,46iq,1,u76 46ir,46ir,1,eur 46is,46is,1,u95 46it,46it,1,ucn
  46iu,46iu,1,ude 46iv,46iv,1,uf2 46iw,46iw,1,ez2 46ix,46ix,1,3nsg 46iy,46iy,1,umq
  46iz,46iz,1,uv4 46j0,46j0,1,v0d 46j1,46j1,1,f66 46j2,46j2,1,f71 46j3,46j3,1,v3b
  46j4,46j4,1,3owe 46j5,46j5,1,f7c 46j6,46j6,1,3oxx 46j7,46j7,1,3p5a 46j8,46j8,1,3p8x
  46j9,46j9,1,vcr 46ja,46ja,1,f9y 46jb,46jb,1,veh 46jc,46jc,1,vem 46jd,46jd,1,vet
  46je,46je,1,vf3 46jf,46jf,1,vfa 46jg,46jg,1,vgb 46jh,46jh,1,3pxc"

def imageText : String :=
  "4o,w,lk 4v,w,lg 50,w,ld 54,w,mf 58,1d,6dg,1g 59,1d,6dg,1e 5a,1f,6dg,1g 8g,2x,lj 8i,2x,2y
  8j,2x,2y 8v,30,53 8w,30,53 95,jg,32 ck,2s,am cl,2s,am cm,2s,am cn,30,2y co,30,2y cp,30,2y
  cq,32,2y cr,32,2y cs,32,2y dt,2s,3e du,2s,3e dv,2s,3e k8,w,li k9,w,lj ka,w,lm kb,w,mg
  kc,w,lf kd,w,ln n8,lk,ld oq,w,qh p0,w,ld p1,w,lk,ld 13b,12d,136 19x,17r,19w 19y,18o,19w
  19z,1c7,19w 1a0,18q,19w 1ug,1sl,1to 1uh,1sm,1to 1ui,1sn,1to 1uj,1ss,1to 1uk,1sx,1to
  1ul,1sy,1to 1um,1t7,1to 1un,1tb,1to 1y4,1wh,1x8 1y5,1wi,1x8 1y7,1wv,1x8 20j,20i,20s
  20m,20o,20s 21l,1zq,20s 21m,1zr,20s 21n,1zw,20s 21q,20b,20s 28s,275,27w 28t,276,27w
  2sz,2tp,2sy 2wj,2x9,2wi 2xo,2wb,2vt 2xp,2wb,2w1 30j,30i,33r 30t,30s,33r 30y,30x,33r
  313,312,33r 318,317,33r 31l,30g,33p 31v,31t,31u 31x,31t,31w 31y,33m,328 31z,33m,31t,328
  320,33n,328 321,33n,31t,328 329,31t,328 32r,32q,33r 331,330,33r 336,335,33r 33b,33a,33r
  33g,33f,33r 33t,32o,33p 61m,2p,ji 61q,37,37 680,64g,qh 681,64h,qh 682,64i,qh 683,64j,qh
  684,64k,qh 685,64l,qh 686,64m,qh 687,64n,qh 688,64g,qh 689,64h,qh 68a,64i,qh 68b,64j,qh
  68c,64k,qh 68d,64l,qh 68e,64m,qh 68f,64n,qh 68g,65c,qh 68h,65d,qh 68i,65e,qh 68j,65f,qh
  68k,65g,qh 68l,65h,qh 68m,65i,qh 68n,65j,qh 68o,65c,qh 68p,65d,qh 68q,65e,qh 68r,65f,qh
  68s,65g,qh 68t,65h,qh 68u,65i,qh 68v,65j,qh 68w,674,qh 68x,675,qh 68y,676,qh 68z,677,qh
  690,678,qh 691,679,qh 692,67a,qh 693,67b,qh 694,674,qh 695,675,qh 696,676,qh 697,677,qh
  698,678,qh 699,679,qh 69a,67a,qh 69b,67b,qh 69e,67k,qh 69f,q9,qh 69g,q4,qh 69j,69i,qh
  69o,q9,qh 69p,w,lv 69r,w,lv 69s,w,n6 69t,w,lk,n6 69u,67o,qh 69v,qf,qh 69w,q6,qh 69z,69y,qh
  6a4,qf,qh 6a5,w,lv,lc 6a6,w,lv,ld 6a7,w,lv,n6 6al,w,lw,lc 6am,w,lw,ld 6an,w,lw,n6
  6b1,w,lk,lc 6b2,w,lk,ld 6b6,67w,qh 6b7,qx,qh 6b8,r2,qh 6bb,6ba,qh 6bg,qx,qh 6bh,w,ld
  6bi,w,lw 6c7,w,mr 6cz,6cy,6cy 6d0,6cy,6cy,6cy 6d2,6d1,6d1 6d3,6d1,6d1,6d1 6d8,x,x 6da,w,lh
  6dj,1r,1r 6dk,1r,x 6dl,x,1r 6dz,6cy,6cy,6cy,6cy 6g8,36,37 6io,2p,1b,2r 6ip,2p,1b,37
  6ir,4w,2r 6it,2r,1b,33 6iu,2r,1b,39 6ix,4w,2u 6ja,32,33 6jk,37,31 6jl,38,2t,30 6jm,38,31
  6kb,2u,2p,3c 6kw,1d,6dg,1j 6kx,1d,6dg,1l 6ky,1d,6dg,1d,1c 6kz,1d,6dg,1f 6l0,1e,6dg,1f
  6l1,1d,6dg,1h 6l2,1e,6dg,1h 6l3,1f,6dg,1h 6l4,1g,6dg,1h 6l5,1d,6dg,1i 6l6,1h,6dg,1i
  6l7,1d,6dg,1k 6l8,1f,6dg,1k 6l9,1h,6dg,1k 6la,1j,6dg,1k 6lb,1d,6dg 6ld,2x,2x 6le,2x,2x,2x
  6lf,2x,3a 6lh,3a,2x 6li,3a,2x,2x 6lj,3a,2x,2x,2x 6lk,2x,3c 6lm,3c,2x 6ln,3c,2x,2x 6lt,2x,2x
  6lu,2x,2x,2x 6lv,2x,3a 6lx,3a,2x 6ly,3a,2x,2x 6lz,3a,2x,2x,2x 6m0,2x,3c 6m2,3c,2x
  6m3,3c,2x,2x 6mh,1c,6dg,1f 6r0,6qz,6qz 6r1,6qz,6qz,6qz 6r3,6r2,6r2 6r4,6r2,6r2,6r2 76x,1d,1c
  76y,1d,1d 76z,1d,1e 770,1d,1f 771,1d,1g 772,1d,1h 773,1d,1i 774,1d,1j 775,1d,1k 776,1d,1l
  777,1e,1c 778,14,1d,15 779,14,1e,15 77a,14,1f,15 77b,14,1g,15 77c,14,1h,15 77d,14,1i,15
  77e,14,1j,15 77f,14,1k,15 77g,14,1l,15 77h,14,1d,1c,15 77i,14,1d,1d,15 77j,14,1d,1e,15
  77k,14,1d,1f,15 77l,14,1d,1g,15 77m,14,1d,1h,15 77n,14,1d,1i,15 77o,14,1d,1j,15
  77p,14,1d,1k,15 77q,14,1d,1l,15 77r,14,1e,1c,15 78c,14,2p,15 78d,14,2q,15 78e,14,2r,15
  78f,14,2s,15 78g,14,2t,15 78h,14,2u,15 78i,14,2v,15 78j,14,2w,15 78k,14,2x,15 78l,14,2y,15
  78m,14,2z,15 78n,14,30,15 78o,14,31,15 78p,14,32,15 78q,14,33,15 78r,14,34,15 78s,14,35,15
  78t,14,36,15 78u,14,37,15 78v,14,38,15 78w,14,39,15 78x,14,3a,15 78y,14,3b,15 78z,14,3c,15
  790,14,3d,15 791,14,3e,15 8b0,6qz,6qz,6qz,6qz 8dw,1m,1m,1p 8dx,1p,1p 8dy,1p,1p,1p 8gs,8gt,mw
  9ln,w,9ll 9lo,w,9lm 9lr,9l4,9l6 9of,9mb,9mw 9vk,14,3cw,15 9vl,14,3cy,15 9vm,14,3cz,15
  9vn,14,3d1,15 9vo,14,3d2,15 9vp,14,3d3,15 9vq,14,3d5,15 9vr,14,3d7,15 9vs,14,3d8,15
  9vt,14,3da,15 9vu,14,3db,15 9vv,14,3dc,15 9vw,14,3dd,15 9vx,14,3de,15 9vy,14,xz4,15
  9vz,14,yvs,15 9w0,14,zc4,15 9w1,14,108s,15 9w2,14,10p4,15 9w3,14,115g,15 9w4,14,1224,15
  9w5,14,12ys,15 9w6,14,13f4,15 9w7,14,14bs,15 9w8,14,14s4,15 9w9,14,158g,15 9wa,14,15os,15
  9wb,14,1654,15 9wc,14,13p8,15 9wd,14,1350,13ic,15 9we,14,1350,16f8,15 9wg,14,feo,15
  9wh,14,fik,15 9wi,14,fex,15 9wj,14,h5n,15 9wk,14,fis,15 9wl,14,g31,15 9wm,14,fer,15
  9wn,14,g2z,15 9wo,14,fh9,15 9wp,14,gg1,15 9wq,14,kco,15 9wr,14,m7f,15 9ws,14,ldg,15
  9wt,14,kdk,15 9wu,14,ssx,15 9wv,14,h7j,15 9ww,14,k4l,15 9wx,14,kkq,15 9wy,14,kcp,15
  9wz,14,ny6,15 9x0,14,glp,15 9x1,14,mm1,15 9x2,14,rs1,15 9x3,14,nz1,15 9x4,14,gc4,15
  9x5,14,fkz,15 9x6,14,gos,15 9x7,14,i1y,15 9x8,14,nhf,15 9x9,14,flt,15 9xa,14,rt3,15
  9xb,14,ggk,15 9xc,14,nzh,15 9xd,14,fm9,15 9xe,14,pnu,15 9xf,14,po3,15 9xs,34,38,2t 9xt,1e,1d
  9xu,1e,1e 9xv,1e,1f 9xw,1e,1g 9xx,1e,1h 9xy,1e,1i 9xz,1e,1j 9y0,1e,1k 9y1,1e,1l 9y2,1f,1c
  9y3,1f,1d 9y4,1f,1e 9y5,1f,1f 9y6,1f,1g 9y7,1f,1h 9z0,14c8,y5c 9z1,13p8,13dk a0h,1f,1i
  a0i,1f,1j a0j,1f,1k a0k,1f,1l a0l,1g,1c a0m,1g,1d a0n,1g,1e a0o,1g,1f a0p,1g,1g a0q,1g,1h
  a0r,1g,1i a0s,1g,1j a0t,1g,1k a0u,1g,1l a0v,1h,1c a0w,1d,kco a0x,1e,kco a0y,1f,kco
  a0z,1g,kco a10,1h,kco a11,1i,kco a12,1j,kco a13,1k,kco a14,1l,kco a15,1d,1c,kco
  a16,1d,1d,kco a17,1d,1e,kco a18,2w,2v a19,2t,36,2v a1a,2t,3a a1b,30,38,2s a2n,fl0,gp8
  a2o,9lu,9n5,9oc,9mw a2p,9lu,9nv,9n9,9lt a2q,9lu,9o3,9ne,9lu a2r,9lu,9oc,9nv
  a2s,9lw,9mz,9o3,9m8 a2t,9lw,9o3,9mp a2u,9ly,9m1,9o3 a2v,9m0,9mh,9m7,9oc,9mx
  a2w,9m0,9oc,9m3,9oc a2x,9m2,9o3,9mh a2y,9m2,9oc,9nk a2z,9m3,9lw,9nu a30,9m3,9nt,9mr,9mw
  a31,9m3,9nx,9nu,9oc a32,9m4,9nx,9o3 a33,9m4,9o3,9ni a34,9m6,9m4 a35,9m6,9mz,9oc
  a36,9m5,9np,9nu,9oc a37,9m6,9nv,9mo,9oc a38,9m5,9nx a39,9m5,9nx,9m8,9nt,9nk
  a3a,9m5,9nx,9nl,9oc,9mw,9nv a3b,9m5,9nx,9nz,9mr,9mw a3c,9m8,9nt,9nk a3d,9m8,9nt,9nk,9mw,9o3
  a3e,9m7,9nv,9mk,9lw,9nx a3f,9m7,9nx,9oc,9n1 a3g,9m9,9oc,9mh a3h,9mb,9nv,9my a3i,9mb,9oc,9nh
  a3j,9md,9lw,9m7,9nv a3k,9md,9o3,9mp,9oc,9nk a3l,9mf,9nu,9o3,9m8 a3m,9mj,9o3,9mp
  a3n,9mj,9o3,9mw a3o,9mo,9oc,9mh a3p,9mv,9mf a3q,9mx,9nv a3r,9mw,9o3 a3s,9my,9n2
  a3t,9n2,9mr,9mw a3u,9n3,9lw,9ms a3v,9n5,9oc,9mj,9o3,9mw a3w,9n5,9oc,9ms a3x,9n4,9oc,9nw,9nv
  a3y,9n8,9lu,9mh,9mw,9nv a3z,9n8,9m7,9nv a40,9n8,9mb a41,9n7,9nv a42,9n9,9lt,9nt,9mr,9mx
  a43,9n9,9lv,9oc,9mw a44,9na,9mr,9mf,9lz,9nv a45,9n9,9nt,9o3 a46,9nc,9m7,9mn,9oc,9nv
  a47,9ne,9ml a48,9ne,9mz,9n6 a49,9nc,9nv,9ms a4a,9ne,9o3,9mh a4b,9ne,9oc,9mg a4c,9nd,9oc,9mn
  a4d,9nh,9lw,9o3,9mw a4e,9ng,9nv,9mw a4f,9nf,9o3 a4g,9nh,9o3,9mx a4h,9nf,9oc,9nv
  a4i,9nf,9oc,9o3 a4j,9ni,9lw,9m7,9nx a4k,9ni,9lw,9nv a4l,9ni,9mr,9n3 a4m,9ni,9nv,9m7
  a4n,9ni,9o3,9mf,9nr,9o3 a4o,9nj,9m7,9nx,9o3 a4p,9nj,9nu a4q,9nj,9nu,9n4,9oc,9nv a4r,9nl,9m4
  a4s,9nl,9m4,9mw,9o3 a4t,9nl,9oc,9mw,9nv a4u,9no,9oc,9mx a4v,9no,9oc,9nv a4w,9nq,9lu,9o3
  a4x,9nu,9mr,9mw,9nv a4y,9nu,9nt a4z,9nv,9n8,9oc a50,9nv,9oc,9na,9nv a51,9nw,9nk
  a52,9nw,9o3,9mw,9ma,9o3 a53,9nz,9mr,9mw a54,1c,m9l a55,1d,m9l a56,1e,m9l a57,1f,m9l
  a58,1g,m9l a59,1h,m9l a5a,1i,m9l a5b,1j,m9l a5c,1k,m9l a5d,1l,m9l a5e,1d,1c,m9l
  a5f,1d,1d,m9l a5g,1d,1e,m9l a5h,1d,1f,m9l a5i,1d,1g,m9l a5j,1d,1h,m9l a5k,1d,1i,m9l
  a5l,1d,1j,m9l a5m,1d,1k,m9l a5n,1d,1l,m9l a5o,1e,1c,m9l a5p,1e,1d,m9l a5q,1e,1e,m9l
  a5r,1e,1f,m9l a5s,1e,1g,m9l a5t,2w,34,2p a5u,2s,2p a5v,2p,39 a5w,2q,2p,36 a5x,33,3a
  a5y,34,2r a5z,2s,31 a60,2s,31,1e a61,2s,31,1f a62,2x,39 a63,inn,jdc a64,k6l,gp8 a65,hlz,l7n
  a66,k5q,lh7 a67,kkq,irz,fmi,ny6 a68,34,2p a69,32,2p a6a,qk,2p a6b,31,2p a6c,2z,2p a6d,2z,2q
  a6e,31,2q a6f,2v,2q a6g,2r,2p,30 a6h,2z,2r,2p,30 a6i,34,2u a6j,32,2u a6k,qk,2u a6l,qk,2v
  a6m,31,2v a6n,2z,2v a6o,2w,3e a6p,2z,2w,3e a6q,31,2w,3e a6r,2v,2w,3e a6s,38,2w,3e a6t,qk,30
  a6u,31,30 a6v,2s,30 a6w,2z,30 a6x,2u,31 a6y,32,31 a6z,qk,31 a70,31,31 a71,2r,31 a72,2z,31
  a73,31,31,1e a74,2r,31,1e a75,31,1e a76,2z,31,1e a77,31,31,1f a78,2r,31,1f a79,31,1f
  a7a,2z,31,1f a7b,31,6qd,37 a7c,31,6qd,37,1e a7d,34,2p a7e,2z,34,2p a7f,31,34,2p a7g,2v,34,2p
  a7h,36,2p,2s a7i,36,2p,2s,6qd,37 a7j,36,2p,2s,6qd,37,1e a7k,34,37 a7l,32,37 a7m,qk,37
  a7n,31,37 a7o,34,3a a7p,32,3a a7q,qk,3a a7r,31,3a a7s,2z,3a a7t,31,3a a7u,34,3b a7v,32,3b
  a7w,qk,3b a7x,31,3b a7y,2z,3b a7z,31,3b a80,2z,qx a81,31,qx a83,2q,35 a84,2r,2r a85,2r,2s
  a86,2r,6qd,2z,2v a88,2s,2q a89,2v,3d a8a,2w,2p a8b,2w,34 a8c,2x,32 a8d,2z,2z a8e,2z,31
  a8f,2z,38 a8g,30,31 a8h,30,32 a8i,30,33,2v a8j,30,3c a8k,31,2q a8l,31,2x,30 a8m,31,33,30
  a8n,34,2w a8p,34,34,31 a8q,34,36 a8r,37,36 a8s,37,3a a8t,3b,2q a8u,3a,6qd,31 a8v,2p,6qd,31
  a8w,1d,k4l a8x,1e,k4l a8y,1f,k4l a8z,1g,k4l a90,1h,k4l a91,1i,k4l a92,1j,k4l a93,1k,k4l
  a94,1l,k4l a95,1d,1c,k4l a96,1d,1d,k4l a97,1d,1e,k4l a98,1d,1f,k4l a99,1d,1g,k4l
  a9a,1d,1h,k4l a9b,1d,1i,k4l a9c,1d,1j,k4l a9d,1d,1k,k4l a9e,1d,1l,k4l a9f,1e,1c,k4l
  a9g,1e,1d,k4l a9h,1e,1e,k4l a9i,1e,1f,k4l a9j,1e,1g,k4l a9k,1e,1h,k4l a9l,1e,1i,k4l
  a9m,1e,1j,k4l a9n,1e,1k,k4l a9o,1e,1l,k4l a9p,1f,1c,k4l a9q,1f,1d,k4l a9r,2v,2p,30
  1dkw,2u,2u 1dkx,2u,2x 1dky,2u,30 1dkz,2u,2u,2x 1dl0,2u,2u,30 1dl1,37,38 1dl2,37,38
  1dlf,12s,12u 1dlg,12s,12d 1dlh,12s,12j 1dli,132,12u 1dlj,12s,12l 1dlp,15l,14k 1dlr,16a,14n
  1dm2,161,14x 1dm3,161,14y 1dm4,161,14s,14x 1dm5,161,14s,14y 1dm6,15c,14n 1dm7,15c,14o
  1dm8,15c,14s 1dm9,15d,14s 1dma,15e,14s 1dmb,15f,14s 1dmc,15g,14s 1dmd,15h,14s 1dme,15i,14s
  1dmg,15k,14s 1dmh,15l,14s 1dmi,15m,14s 1dmj,15n,14s 1dmk,15o,14s 1dmm,15q,14s 1dmo,15s,14s
  1dmp,15t,14s 1dmr,15v,14s 1dms,15w,14s 1dmu,15y,14s 1dmv,15z,14s 1dmw,160,14s 1dmx,161,14s
  1dmy,162,14s 1dmz,15h,14p 1dn0,15d,14v 1dn1,15n,14v 1dn2,15w,14v 1dn3,15c,15o 1dr1,1c7,19w
  1dre,17q,17r 1drf,17q,17r 1drg,17q,1cl 1drh,17q,1cl 1dri,17q,18o 1drj,17q,18o 1drk,17q,1c7
  1drl,17q,1c7 1drm,17q,1c6 1drn,17q,1c6 1dro,17q,1c8 1drp,17q,1c8 1drq,17q,1cg 1drr,17q,1cg
  1drs,17q,1cg 1drt,17q,18p 1dru,17q,18p 1drv,17q,18p 1ds0,17q,17w 1ds1,17q,17x 1ds2,17q,18l
  1ds3,17q,18p 1ds4,17q,18q 1ds5,17s,17w 1ds6,17s,17x 1ds7,17s,17y 1ds8,17s,18l 1ds9,17s,18p
  1dsa,17s,18q 1dsb,17u,17w 1dsc,17u,17x 1dsd,17u,17y 1dse,17u,18l 1dsf,17u,18p 1dsg,17u,18q
  1dsh,17v,17w 1dsi,17v,18l 1dsj,17v,18p 1dsk,17v,18q 1dsl,17w,17x 1dsm,17w,18l 1dsn,17x,17w
  1dso,17x,18l 1dsp,17y,17w 1dsq,17y,17x 1dsr,17y,18l 1dss,183,17w 1dst,183,17x 1dsu,183,17y
  1dsv,183,18l 1dsw,185,17x 1dsx,185,18l 1dsy,186,17w 1dsz,186,17x 1dt0,186,17y 1dt1,186,18l
  1dt2,187,17x 1dt3,187,18l 1dt4,188,18l 1dt5,189,17w 1dt6,189,18l 1dt7,18a,17w 1dt8,18a,18l
  1dt9,18h,17w 1dta,18h,17x 1dtb,18h,17y 1dtc,18h,18l 1dtd,18h,18p 1dte,18h,18q 1dtf,18i,17x
  1dtg,18i,18l 1dth,18i,18p 1dti,18i,18q 1dtj,18j,17r 1dtk,18j,17w 1dtl,18j,17x 1dtm,18j,17y
  1dtn,18j,18k 1dto,18j,18l 1dtp,18j,18p 1dtq,18j,18q 1dtr,18k,17w 1dts,18k,17x 1dtt,18k,17y
  1dtu,18k,18l 1dtv,18k,18p 1dtw,18k,18q 1dtx,18l,17w 1dty,18l,17x 1dtz,18l,17y 1du0,18l,18l
  1du1,18l,18p 1du2,18l,18q 1du3,18m,17w 1du4,18m,17x 1du5,18m,17y 1du6,18m,18l 1du7,18m,18p
  1du8,18m,18q 1du9,18n,17w 1dua,18n,18l 1dub,18n,18p 1duc,18n,18q 1dud,18q,17w 1due,18q,17x
  1duf,18q,17y 1dug,18q,18l 1duh,18q,18p 1dui,18q,18q 1duj,180,19s 1duk,181,19s 1dul,18p,19s
  1dum,w,18s,18x 1dun,w,18t,18x 1duo,w,18u,18x 1dup,w,18v,18x 1duq,w,18w,18x 1dur,w,18x,19s
  1dus,17q,181 1dut,17q,182 1duu,17q,18l 1duv,17q,18m 1duw,17q,18p 1dux,17q,18q 1duy,17s,181
  1duz,17s,182 1dv0,17s,18l 1dv1,17s,18m 1dv2,17s,18p 1dv3,17s,18q 1dv4,17u,181 1dv5,17u,182
  1dv6,17u,18l 1dv7,17u,18m 1dv8,17u,18p 1dv9,17u,18q 1dva,17v,181 1dvb,17v,182 1dvc,17v,18l
  1dvd,17v,18m 1dve,17v,18p 1dvf,17v,18q 1dvg,18h,18p 1dvh,18h,18q 1dvi,18i,18p 1dvj,18i,18q
  1dvk,18j,17r 1dvl,18j,18k 1dvm,18j,18l 1dvn,18j,18p 1dvo,18j,18q 1dvp,18k,18l 1dvq,18k,18p
  1dvr,18k,18q 1dvs,18l,17r 1dvt,18l,18l 1dvu,18m,181 1dvv,18m,182 1dvw,18m,18l 1dvx,18m,18m
  1dvy,18m,18p 1dvz,18m,18q 1dw0,18p,19s 1dw1,18q,181 1dw2,18q,182 1dw3,18q,18l 1dw4,18q,18m
  1dw5,18q,18p 1dw6,18q,18q 1dw7,17q,17w 1dw8,17q,17x 1dw9,17q,17y 1dwa,17q,18l 1dwb,17q,18n
  1dwc,17s,17w 1dwd,17s,17x 1dwe,17s,17y 1dwf,17s,18l 1dwg,17s,18n 1dwh,17u,17w 1dwi,17u,17x
  1dwj,17u,17y 1dwk,17u,18l 1dwl,17u,18n 1dwm,17v,18l 1dwn,17w,17x 1dwo,17w,18l 1dwp,17x,17w
  1dwq,17x,18l 1dwr,17y,17w 1dws,17y,18l 1dwt,183,17w 1dwu,183,17x 1dwv,183,17y 1dww,183,18l
  1dwx,185,17x 1dwy,185,17y 1dwz,185,18l 1dx0,186,17w 1dx1,186,17x 1dx2,186,17y 1dx3,186,18l
  1dx4,187,17x 1dx5,188,18l 1dx6,189,17w 1dx7,189,18l 1dx8,18a,17w 1dx9,18a,18l 1dxa,18h,17w
  1dxb,18h,17x 1dxc,18h,17y 1dxd,18h,18l 1dxe,18i,17x 1dxf,18i,18l 1dxg,18j,17w 1dxh,18j,17x
  1dxi,18j,17y 1dxj,18j,18k 1dxk,18j,18l 1dxl,18k,17w 1dxm,18k,17x 1dxn,18k,17y 1dxo,18k,18l
  1dxp,18k,18n 1dxq,18l,17w 1dxr,18l,17x 1dxs,18l,17y 1dxt,18l,18l 1dxu,18m,17w 1dxv,18m,17x
  1dxw,18m,17y 1dxx,18m,18l 1dxy,18m,18n 1dxz,18n,17w 1dy0,18n,18l 1dy1,18n,19s 1dy2,18q,17w
  1dy3,18q,17x 1dy4,18q,17y 1dy5,18q,18l 1dy6,18q,18n 1dy7,17q,18l 1dy8,17q,18n 1dy9,17s,18l
  1dya,17s,18n 1dyb,17u,18l 1dyc,17u,18n 1dyd,17v,18l 1dye,17v,18n 1dyf,183,18l 1dyg,183,18n
  1dyh,184,18l 1dyi,184,18n 1dyj,18j,18k 1dyk,18j,18l 1dyl,18k,18l 1dym,18m,18l 1dyn,18m,18n
  1dyo,18q,18l 1dyp,18q,18n 1dyq,18g,18u,18x 1dyr,18g,18v,18x 1dys,18g,18w,18x 1dyt,187,18p
  1dyu,187,18q 1dyv,189,18p 1dyw,189,18q 1dyx,18a,18p 1dyy,18a,18q 1dyz,183,18p 1dz0,183,18q
  1dz1,184,18p 1dz2,184,18q 1dz3,17x,18p 1dz4,17x,18q 1dz5,17w,18p 1dz6,17w,18q 1dz7,17y,18p
  1dz8,17y,18q 1dz9,185,18p 1dza,185,18q 1dzb,186,18p 1dzc,186,18q 1dzd,184,17w 1dze,184,17x
  1dzf,184,17y 1dzg,184,18l 1dzh,184,181 1dzi,183,181 1dzj,185,181 1dzk,186,181 1dzl,187,18p
  1dzm,187,18q 1dzn,189,18p 1dzo,189,18q 1dzp,18a,18p 1dzq,18a,18q 1dzr,183,18p 1dzs,183,18q
  1dzt,184,18p 1dzu,184,18q 1dzv,17x,18p 1dzw,17x,18q 1dzx,17w,18p 1dzy,17w,18q 1dzz,17y,18p
  1e00,17y,18q 1e01,185,18p 1e02,185,18q 1e03,186,18p 1e04,186,18q 1e05,184,17w 1e06,184,17x
  1e07,184,17y 1e08,184,18l 1e09,184,181 1e0a,183,181 1e0b,185,181 1e0c,186,181 1e0d,184,17w
  1e0e,184,17x 1e0f,184,17y 1e0g,184,18l 1e0h,183,18n 1e0i,184,18n 1e0j,187,18l 1e0k,183,17w
  1e0l,183,17x 1e0m,183,17y 1e0n,184,17w 1e0o,184,17x 1e0p,184,17y 1e0q,187,18l 1e0r,188,18l
  1e0s,17r,18r 1e0t,17r,18r 1e1c,17u,17w,18l 1e1d,17u,17x,17w 1e1e,17u,17x,17w
  1e1f,17u,17x,18l 1e1g,17u,17y,18l 1e1h,17u,18l,17w 1e1i,17u,18l,17x 1e1j,17u,18l,17y
  1e1k,17w,18l,17x 1e1l,17w,18l,17x 1e1m,17x,18l,18q 1e1n,17x,18l,18p 1e1o,183,17x,17w
  1e1p,183,17w,17x 1e1q,183,17w,18p 1e1r,183,18l,17x 1e1s,183,18l,17x 1e1t,183,18l,17w
  1e1u,183,18l,18l 1e1v,183,18l,18l 1e1w,185,17x,17x 1e1x,185,17x,17x 1e1y,185,18l,18l
  1e1z,184,17x,18l 1e20,184,17x,18l 1e21,184,17w,18q 1e22,184,18l,17y 1e23,184,18l,17y
  1e24,184,18l,18l 1e25,184,18l,18l 1e26,186,17x,18p 1e27,186,17y,18l 1e28,186,17y,18l
  1e29,187,18l,17x 1e2a,187,18l,17x 1e2b,187,18l,18l 1e2c,187,18l,18q 1e2d,189,17w,18l
  1e2e,189,18l,18l 1e2f,189,18l,18l 1e2g,189,18l,18p 1e2h,18a,18l,18l 1e2i,18a,18l,18q
  1e2j,18a,18l,18p 1e2k,18h,17y,18l 1e2l,18h,17y,18l 1e2m,18i,18l,17x 1e2n,18i,18l,18l
  1e2o,18k,17x,18l 1e2p,18k,17x,18q 1e2q,18k,17x,18p 1e2r,18k,17w,17w 1e2s,18k,17w,17w
  1e2t,18k,17y,18l 1e2u,18k,17y,18l 1e2v,18k,18l,17x 1e2w,18k,18l,17x 1e2x,18l,17x,17w
  1e2y,18l,17x,18l 1e2z,18l,17x,18q 1e30,18l,17w,17x 1e31,18l,17w,18l 1e32,18l,17y,17w
  1e33,18l,17y,18l 1e36,18l,17w,17y 1e37,18n,18l,17w 1e38,18n,18l,18l 1e39,18m,17x,18l
  1e3a,18m,17x,18p 1e3b,18m,17w,18l 1e3c,18m,17w,18l 1e3d,18m,17w,18p 1e3e,18m,18l,18q
  1e3f,18m,18l,18p 1e3g,18q,18l,18l 1e3h,18q,18l,18l 1e3i,17s,17y,18q 1e3j,17u,17w,18q
  1e3k,17u,17w,18p 1e3l,17u,17y,18q 1e3m,17u,17y,18p 1e3n,17u,18l,18q 1e3o,17u,18l,18p
  1e3p,17w,18l,18q 1e3q,17w,17x,18p 1e3r,17w,18l,18p 1e3s,183,17y,18p 1e3t,185,17x,18q
  1e3u,184,17x,18q 1e3v,186,17x,18q 1e3w,18k,17w,18q 1e3x,18k,18l,18q 1e3y,18q,17x,18q
  1e3z,18q,17w,18q 1e40,18q,18l,18q 1e41,18l,18l,18q 1e42,18i,18l,18q 1e43,18m,17x,18q
  1e44,18i,18l,17x 1e45,18k,17x,18l 1e46,189,18l,18q 1e47,18j,18l,18q 1e48,18m,17w,17x
  1e49,18l,17y,18q 1e4a,18k,17w,18l 1e4b,18j,18l,18l 1e4c,18k,17w,18l 1e4d,18m,17w,17x
  1e4e,17w,17x,18q 1e4f,17x,17w,18q 1e4g,18l,17w,18q 1e4h,18h,18l,18q 1e4i,17s,17x,18q
  1e4j,18j,18l,18l 1e4k,189,17w,18l 1e4l,185,18l,18l 1e4m,183,17y,18q 1e4n,18m,17w,18q
  1e5s,185,18k,1ci 1e5t,18i,18k,1ci 1e5u,17r,18k,18k,18n 1e5v,17r,18j,17s,181
  1e5w,18l,17x,18l,17z 1e5x,185,18k,189,18l 1e5y,181,183,18o,18k 1e5z,189,18k,18q,18n
  1e60,18o,183,18k,18l 1e61,185,18k,18p
  1e62,185,18k,18p,w,17r,18k,18k,18n,w,189,18k,18q,18n,w,18o,183,18k,18l
  1e63,17w,18k,w,17w,18k,17r,18k,18n 1e64,181,1cc,17r,18k 1e89,w,lh 1e8a,w,lh 1e8b,w,lh
  1e8c,w,lh 1e9c,w,18r 1e9d,18g,18r 1e9e,w,18s 1e9g,w,18t 1e9i,w,18u 1e9j,18g,18u 1e9k,w,18v
  1e9l,18g,18v 1e9m,w,18w 1e9n,18g,18w 1e9o,w,18x 1e9p,18g,18x 1e9q,w,18y 1e9r,18g,18y
  1ed1,18k,17m 1ed2,18k,17m 1ed3,18k,17n 1ed4,18k,17n 1ed5,18k,17p 1ed6,18k,17p 1ed7,18k,17r
  1ed8,18k,17r 1ejn,w,lg 2jxa,2jx3,2jxh 2jxb,2jx4,2jxh 2jxc,2jx4,2jxh,2jxq 2jxd,2jx4,2jxh,2jxr
  2jxe,2jx4,2jxh,2jxs 2jxf,2jx4,2jxh,2jxt 2jxg,2jx4,2jxh,2jxu 2jzv,2jzt,2jxh 2jzw,2jzu,2jxh
  2jzx,2jzt,2jxh,2jxq 2jzy,2jzu,2jxh,2jxq 2jzz,2jzt,2jxh,2jxr 2k00,2jzu,2jxh,2jxr 2q69,1c,18
  2q6a,1d,18 2q6b,1e,18 2q6c,1f,18 2q6d,1g,18 2q6e,1h,18 2q6f,1i,18 2q6g,1j,18 2q6h,1k,18
  2q6i,1l,18 2q6o,14,2p,15 2q6p,14,2q,15 2q6q,14,2r,15 2q6r,14,2s,15 2q6s,14,2t,15
  2q6t,14,2u,15 2q6u,14,2v,15 2q6v,14,2w,15 2q6w,14,2x,15 2q6x,14,2y,15 2q6y,14,2z,15
  2q6z,14,30,15 2q70,14,31,15 2q71,14,32,15 2q72,14,33,15 2q73,14,34,15 2q74,14,35,15
  2q75,14,36,15 2q76,14,37,15 2q77,14,38,15 2q78,14,39,15 2q79,14,3a,15 2q7a,14,3b,15
  2q7b,14,3c,15 2q7c,14,3d,15 2q7d,14,3e,15 2q7e,9hw,37,9hx 2q7h,2r,2s 2q7i,3b,3e 2q8a,2w,3a
  2q8b,31,3a 2q8c,37,2s 2q8d,37,37 2q8e,34,34,3a 2q8f,3b,2r 2q96,31,2r 2q97,31,2s 2q98,31,36
  2qa8,2s,2y 2qdc,9kr,9jf 2qdd,9mb,9mb 2qf4,9hw,kdo,9hx 2qf5,9hw,fex,9hx 2qf6,9hw,fik,9hx
  2qf7,9hw,i2x,9hx 2qf8,9hw,m9l,9hx 2qf9,9hw,jf7,9hx 2qfa,9hw,nh3,9hx 2qfb,9hw,gd9,9hx
  2qfc,9hw,k0n,9hx"

/-- Ranges of characters that stay as they are. -/
def validRanges : Array (List Nat) := rows validText

/-- Ranges of characters that are dropped. -/
def ignoredRanges : Array (List Nat) := rows ignoredText

/-- Runs of characters that each become one other character. -/
def mappedRuns : Array (List Nat) := rows runText

/-- Characters that become several, or none. -/
def mappedImages : Array (List Nat) := rows imageText

end Roster.Net
